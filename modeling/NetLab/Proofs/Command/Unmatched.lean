import NetLab.Proofs.Command.Full

set_option autoImplicit false

/-!
# Lines that match nothing

Why a line is refused that means no command of its mode.  It is incomplete exactly if words can be
put behind it so that it means a command (`Command.Completable`): the line is cut short, not wrong.
What stands behind a line may be many words, and the command that it means then may be another one
than the one whose keywords it begins.
-/

namespace NetLab

namespace Keyword

variable {ks words more : List String}

/-- Keywords of which words are the beginning are matched by these words and the keywords that are
still to come. -/
theorem matchWords_of_unfinished (lower : Lower ks) (h : isUnfinished ks words = true) :
    ∃ rest, rest ≠ [] ∧ rest ⊆ ks ∧ matchWords ks (words ++ rest) = some [] := by
  induction ks generalizing words with
  | nil => cases words <;> cases h
  | cons k ks ih =>
    cases words with
    | nil =>
      refine ⟨k :: ks, List.cons_ne_nil k ks, List.Subset.refl _, ?_⟩
      simpa using matchWords_self lower []
    | cons w ws =>
      obtain ⟨hk, lower⟩ := List.forall_mem_cons.1 lower
      simp only [isUnfinished, Bool.and_eq_true] at h
      obtain ⟨hw, h⟩ := h
      obtain ⟨rest, ne, subset, matched⟩ := ih lower h
      refine ⟨rest, ne, List.subset_cons_of_subset k subset, ?_⟩
      rw [List.cons_append, matchWords, if_pos hw, matched]

/-- Words that match the keywords only with more words behind them are the beginning of the
keywords: had they run past the last keyword, they would have matched on their own. -/
theorem isUnfinished_of_matchWords (h : matchWords ks words = none)
    (longer : (matchWords ks (words ++ more)).isSome = true) : isUnfinished ks words = true := by
  induction ks generalizing words with
  | nil => cases h
  | cons k ks ih =>
    cases words with
    | nil => rfl
    | cons w ws =>
      rw [List.cons_append, matchWords] at longer
      rw [matchWords] at h
      split at longer
      · next hw =>
        rw [if_pos hw] at h
        rw [isUnfinished, hw, ih h longer]
        rfl
      · cases longer

end Keyword

/-- No other refusal is printed like the one of an incomplete line. -/
theorem Refusal.eq_incomplete_of_message {r : Refusal} (h : r.message = "% Incomplete command.") :
    r = .incomplete := by
  cases r with
  | incomplete => rfl
  | rejected r => cases r <;> simp [Refusal.message, Rejection.message] at h
  | _ => simp [Refusal.message] at h

theorem Mode.isExec_iff {m : Mode} : m.isExec = true ↔ m = .user ∨ m = .privileged := by
  cases m <;> simp [Mode.isExec]

namespace Command

variable {m : Mode} {words : List String} {line : String}

/-- With words behind it, the line means a command of the mode. -/
def Completable (m : Mode) (line : String) : Prop :=
  ∃ more : List String, more ≠ [] ∧ (∀ w ∈ more, w ≠ "" ∧ ∀ c ∈ w.toList, Text.isBlank c = false) ∧
    ∃ cmd args, resolve m (Text.words (line ++ " " ++ Text.unwords more)) = some (cmd, args)

/-- The line starts with the word "vlan", in any letter case, or with a word of digits. -/
def OpensVlan (line : String) : Prop :=
  ∃ w ws, Text.words line = w :: ws ∧
    (Text.lower w = "vlan" ∨ ∀ c ∈ w.toList, Text.isDigitLike c = true)

theorem matchWords_of_resolve_eq_none {c : Command} (h : resolve m words = none)
    (hc : c ∈ table m) : Keyword.matchWords c.keywords words = none :=
  Option.map_eq_none_iff.1 (List.findSome?_eq_none_iff.1 h c hc)

/-- Words that match a command of the mode mean one, which need not be the same. -/
theorem exists_resolve {c : Command} {args : List String} (hc : c ∈ table m)
    (h : Keyword.matchWords c.keywords words = some args) :
    ∃ cmd args, resolve m words = some (cmd, args) := by
  cases hr : resolve m words with
  | none =>
    rw [matchWords_of_resolve_eq_none hr hc] at h
    cases h
  | some p => exact ⟨p.1, p.2, rfl⟩

/-- A line that means nothing is the beginning of a command exactly if it can be completed. -/
theorem unfinished_iff (h : resolve m (Text.words line) = none) :
    (∃ c ∈ table m, Keyword.isUnfinished c.keywords (Text.words line) = true) ↔
      Completable m line := by
  constructor
  · rintro ⟨c, hc, unfinished⟩
    obtain ⟨more, ne, subset, matched⟩ :=
      Keyword.matchWords_of_unfinished (keywords_of_mem_table hc).2 unfinished
    have letters : ∀ w ∈ more, w ≠ "" ∧ ∀ x ∈ w.toList, Text.isBlank x = false := fun w hw =>
      ⟨Text.ne_empty_of_mem_words (subset hw), Text.notBlank_of_mem_words (subset hw)⟩
    refine ⟨more, ne, letters, ?_⟩
    rw [Text.words_append, Text.words_unwords letters]
    exact exists_resolve hc matched
  · rintro ⟨more, -, letters, cmd, args, meant⟩
    rw [Text.words_append, Text.words_unwords letters] at meant
    obtain ⟨c, hc, found⟩ := List.exists_of_findSome?_eq_some meant
    obtain ⟨as, matched, -⟩ := Option.map_eq_some_iff.1 found
    have longer : (Keyword.matchWords c.keywords (Text.words line ++ more)).isSome = true := by
      rw [matched]
      rfl
    exact ⟨c, hc, Keyword.isUnfinished_of_matchWords (matchWords_of_resolve_eq_none h hc) longer⟩

/-- Only words that are the beginning of a command are refused as incomplete. -/
theorem unmatched_eq_incomplete_iff : unmatched m words = .incomplete ↔
    ∃ c ∈ table m, Keyword.isUnfinished c.keywords words = true := by
  rw [← List.any_eq_true]
  unfold unmatched
  constructor
  · intro incomplete
    by_contra finished
    rw [if_neg finished] at incomplete
    split at incomplete
    · cases incomplete
    · split at incomplete
      · split at incomplete <;> cases incomplete
      · cases incomplete
  · exact fun unfinished => if_pos unfinished

section Wrong

variable (wrong : ¬ ∃ c ∈ table m, Keyword.isUnfinished c.keywords (Text.words line) = true)

include wrong

theorem unmatched_of_exec (exec : m.isExec = true) :
    unmatched m (Text.words line) = .unknownCommand := by
  unfold unmatched
  rw [if_neg (mt List.any_eq_true.1 wrong), if_pos exec]

theorem unmatched_of_opensVlan (mode : m = .vlan) (opens : OpensVlan line) :
    unmatched m (Text.words line) = .nestedVlan := by
  obtain ⟨w, ws, words, first⟩ := opens
  have ne : w ≠ "" := Text.ne_empty_of_mem_words (words ▸ List.mem_cons_self ..)
  unfold unmatched
  rw [if_neg (mt List.any_eq_true.1 wrong)]
  simp [mode, words, Mode.isExec, ne, first]

theorem unmatched_of_config (config : m.isExec = false) (other : ¬ (m = .vlan ∧ OpensVlan line)) :
    unmatched m (Text.words line) = .invalidInput := by
  unfold unmatched
  rw [if_neg (mt List.any_eq_true.1 wrong), config, if_neg Bool.false_ne_true]
  split
  · next w ws words =>
    refine if_neg fun opens => other ⟨rfl, w, ws, words, ?_⟩
    simpa [Text.ne_empty_of_mem_words (words ▸ List.mem_cons_self ..)] using opens
  · rfl

end Wrong

/-- What is printed for a line that means no command of its mode. -/
theorem diagnosis_of_unmatched (h : resolve m (Text.words line) = none) :
    let printed := (unmatched m (Text.words line)).message
    (printed = "% Incomplete command." ↔ Completable m line) ∧
      (¬ Completable m line →
        (m = .user ∨ m = .privileged → printed = "% Unknown command") ∧
        (m = .vlan ∧ OpensVlan line →
          printed = "% Invalid input. Type \"exit\" to return to global config mode first.") ∧
        (¬ (m = .user ∨ m = .privileged) → ¬ (m = .vlan ∧ OpensVlan line) →
          printed = "% Invalid input detected at marker.")) := by
  intro printed
  rw [← unfinished_iff h]
  refine ⟨⟨fun incomplete => ?_, fun unfinished => ?_⟩, fun wrong => ⟨fun exec => ?_, ?_, ?_⟩⟩
  · exact unmatched_eq_incomplete_iff.1 (Refusal.eq_incomplete_of_message incomplete)
  · exact congrArg Refusal.message (unmatched_eq_incomplete_iff.2 unfinished)
  · exact congrArg Refusal.message (unmatched_of_exec wrong (Mode.isExec_iff.2 exec))
  · rintro ⟨mode, opens⟩
    exact congrArg Refusal.message (unmatched_of_opensVlan wrong mode opens)
  · intro config other
    rw [← Mode.isExec_iff, Bool.not_eq_true] at config
    exact congrArg Refusal.message (unmatched_of_config wrong config other)

/-- "sw tr" begins two commands of interface mode and is neither of them. -/
theorem diagnosis_of_unmatched_trunk :
    resolve .interface (Text.words "sw tr") = none ∧ Completable .interface "sw tr" := by
  have h : resolve .interface (Text.words "sw tr") = none := by decide +kernel
  exact ⟨h, (diagnosis_of_unmatched h).1.1 (by decide +kernel)⟩

end Command

end NetLab
