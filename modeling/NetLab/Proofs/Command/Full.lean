import Mathlib.Data.List.Infix
import NetLab.Proofs.Command.Table

set_option autoImplicit false

/-!
# Lines in full

A line that is written out in full means what the abbreviated one means.  A word stands for every
keyword for which the keyword it stands for stands in turn (`Keyword.abbreviates_trans`), so an
earlier command of the table would match the full line only if it matched the line itself
(`Keyword.matchWords_of_full`).
-/

namespace NetLab

namespace Keyword

variable {ks cs words args : List String}

/-- The keywords are in lower case, so that each stands for itself. -/
def Lower (ks : List String) : Prop := ∀ k ∈ ks, Text.lower k = k

instance : DecidablePred Lower := fun ks => inferInstanceAs (Decidable (∀ k ∈ ks, _))

theorem abbreviates_iff {typed keyword : String} :
    abbreviates typed keyword = true ↔ (Text.lower typed).toList <+: keyword.toList :=
  List.isPrefixOf_iff_prefix

theorem abbreviates_self {k : String} (lower : Text.lower k = k) : abbreviates k k = true := by
  rw [abbreviates_iff, lower]

/-- What stands for a keyword stands for all that the keyword stands for. -/
theorem abbreviates_trans {w k c : String} (lower : Text.lower k = k)
    (hw : abbreviates w k = true) (hk : abbreviates k c = true) : abbreviates w c = true := by
  rw [abbreviates_iff] at hw hk ⊢
  rw [lower] at hk
  exact hw.trans hk

/-- Keywords match themselves, and what stands behind them is left over. -/
theorem matchWords_self (lower : Lower ks) (args : List String) :
    matchWords ks (ks ++ args) = some args := by
  induction ks with
  | nil => rfl
  | cons k ks ih =>
    obtain ⟨hk, lower⟩ := List.forall_mem_cons.1 lower
    rw [List.cons_append, matchWords, abbreviates_self hk, if_pos rfl, ih lower]

/-- Keywords that match a line in full match the line that was abbreviated. -/
theorem matchWords_of_full (lower : Lower ks) (h : matchWords ks words = some args)
    (full : (matchWords cs (ks ++ args)).isSome = true) : (matchWords cs words).isSome = true := by
  induction ks generalizing words cs with
  | nil =>
    obtain rfl : words = args := Option.some.inj h
    exact full
  | cons k ks ih =>
    obtain ⟨hk, lower⟩ := List.forall_mem_cons.1 lower
    cases words with
    | nil => cases h
    | cons w ws =>
      rw [matchWords] at h
      split at h
      · next hw =>
        cases cs with
        | nil => rfl
        | cons c cs =>
          rw [List.cons_append, matchWords] at full
          rw [matchWords]
          split at full
          · next hc =>
            rw [if_pos (abbreviates_trans hk hw hc)]
            exact ih lower h full
          · cases full
      · cases h

/-- Some keyword is not the one that the word at its place stands for. -/
def differ (ks ws : List String) : Bool := (ks.zip ws).any fun p => !abbreviates p.2 p.1

/-- Words with a wrong one among them do not match, whatever stands behind them. -/
theorem matchWords_of_differ {ws : List String} (h : differ ks ws = true) (args : List String) :
    matchWords ks (ws ++ args) = none := by
  induction ks generalizing ws with
  | nil => cases h
  | cons k ks ih =>
    cases ws with
    | nil => cases h
    | cons w ws =>
      rw [List.cons_append, matchWords]
      split
      · next same =>
        refine ih ?_
        rwa [differ, List.zip_cons_cons, List.any_cons, same, Bool.not_true, Bool.false_or] at h
      · rfl

end Keyword

namespace Command

variable {m : Mode} {cmd : Command} {words args : List String} {line : String}

/-- Every command has keywords, and they are in lower case. -/
theorem keywords_of_mem_table (h : cmd ∈ table m) :
    cmd.keywords ≠ [] ∧ Keyword.Lower cmd.keywords := by
  have every : ∀ c ∈ ofEveryMode, c.keywords ≠ [] ∧ Keyword.Lower c.keywords := by
    decide +kernel
  have ofMode : ∀ c ∈ own m, c.keywords ≠ [] ∧ Keyword.Lower c.keywords := by
    cases m with
    | other v => exact List.forall_mem_nil _
    | _ => decide +kernel
  rcases List.mem_append.1 h with h | h
  · exact ofMode cmd h
  · exact every cmd h

/-- Where there are no words, no command is meant. -/
theorem resolve_nil (m : Mode) : resolve m [] = none := by
  refine List.findSome?_eq_none_iff.2 fun c hc => ?_
  obtain ⟨k, ks, keywords⟩ := List.exists_cons_of_ne_nil (keywords_of_mem_table hc).1
  rw [keywords]
  rfl

/-- The words of a command in full, with arguments behind them. -/
def fullWords (cmd : Command) (args : List String) : List String := cmd.keywords ++ args

/-- The line that writes a command out in full, with arguments behind it. -/
def fullLine (cmd : Command) (args : List String) : String := Text.unwords (cmd.fullWords args)

/-- Words resolve to the command that they mean, whether they are abbreviated or not. -/
theorem resolve_fullWords (h : resolve m words = some (cmd, args)) :
    resolve m (cmd.fullWords args) = some (cmd, args) := by
  obtain ⟨before, c, behind, table_eq, found, missed⟩ := List.findSome?_eq_some_iff.1 h
  obtain ⟨as, matched, same⟩ := Option.map_eq_some_iff.1 found
  cases same
  have lower : Keyword.Lower cmd.keywords := (keywords_of_mem_table (resolve_eq_some h).1).2
  refine List.findSome?_eq_some_iff.2 ⟨before, cmd, behind, table_eq, ?_, fun c hc => ?_⟩
  · rw [fullWords, Keyword.matchWords_self lower, Option.map_some]
  · -- a command that stands before would have matched the words as they were typed
    have unmatched := missed c hc
    rw [Option.map_eq_none_iff] at unmatched ⊢
    by_contra full
    have typed := Keyword.matchWords_of_full lower matched (Option.isSome_iff_ne_none.2 full)
    rw [unmatched] at typed
    cases typed

/-- The keywords of a command mean it, with any arguments, if every command that stands before it in
the table has a keyword that differs. -/
theorem resolve_keywords {before behind : List Command} (h : table m = before ++ cmd :: behind)
    (missed : ∀ c ∈ before, Keyword.differ c.keywords cmd.keywords = true) (args : List String) :
    resolve m (cmd.fullWords args) = some (cmd, args) := by
  have there : cmd ∈ table m := by
    rw [h]
    exact List.mem_append_right _ (List.mem_cons_self ..)
  refine List.findSome?_eq_some_iff.2 ⟨before, cmd, behind, h, ?_, fun c hc => ?_⟩
  · rw [fullWords, Keyword.matchWords_self (keywords_of_mem_table there).2, Option.map_some]
  · rw [fullWords, Keyword.matchWords_of_differ (missed c hc), Option.map_none]

/-- Keywords and arguments without blanks are cut out of the line again. -/
theorem words_fullLine_of_notBlank (cmd : Command)
    (hargs : ∀ w ∈ args, w ≠ "" ∧ ∀ c ∈ w.toList, Text.isBlank c = false) :
    Text.words (cmd.fullLine args) = cmd.fullWords args := by
  refine Text.words_unwords fun w hw => ?_
  rcases List.mem_append.1 hw with hw | hw
  · exact ⟨Text.ne_empty_of_mem_words hw, Text.notBlank_of_mem_words hw⟩
  · exact hargs w hw

/-- The line in full is cut into the keywords and the arguments. -/
theorem words_fullLine (h : resolve m (Text.words line) = some (cmd, args)) :
    Text.words (cmd.fullLine args) = cmd.fullWords args :=
  words_fullLine_of_notBlank cmd fun _ hw =>
    have typed := (resolve_eq_some h).2.subset hw
    ⟨Text.ne_empty_of_mem_words typed, Text.notBlank_of_mem_words typed⟩

theorem resolve_fullLine (h : resolve m (Text.words line) = some (cmd, args)) :
    resolve m (Text.words (cmd.fullLine args)) = some (cmd, args) := by
  rw [words_fullLine h]
  exact resolve_fullWords h

end Command

end NetLab
