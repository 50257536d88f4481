import Mathlib.Data.List.DropRight
import NetLab.Text.Blank

set_option autoImplicit false

/-!
# Trimmed texts and words

Trimming twice is trimming once, and no word of a text is empty.  The first makes a trimmed id a
key that is found again; the second is why an argument that a command asks for is never empty.  No
word has a blank in it either, so words are found again in the text that is joined from them
(`words_unwords`).
-/

namespace NetLab.Text

theorem dropRightWhile_eq_rdropWhile (p : Char → Bool) (cs : List Char) :
    dropRightWhile p cs = cs.rdropWhile p := rfl

/-- What is stripped starts with a character that stays, unless it is empty. -/
theorem dropWhile_strip (p : Char → Bool) (cs : List Char) :
    (strip p cs).dropWhile p = strip p cs := by
  rw [List.dropWhile_eq_self_iff]
  intro hl
  have hpre : strip p cs <+: cs.dropWhile p := by
    rw [strip, dropRightWhile_eq_rdropWhile]
    exact List.rdropWhile_prefix p (cs.dropWhile p)
  have hne : cs.dropWhile p ≠ [] := by
    intro h
    rw [h] at hpre
    rw [List.prefix_nil.1 hpre] at hl
    exact Nat.lt_irrefl _ hl
  have hhead : (strip p cs)[0] = (cs.dropWhile p).head hne := by
    rw [List.head_eq_getElem]
    exact hpre.getElem hl
  rw [hhead]
  simpa using List.head_dropWhile_not p hne

theorem strip_strip (p : Char → Bool) (cs : List Char) : strip p (strip p cs) = strip p cs := by
  have h := dropWhile_strip p cs
  rw [strip, h, strip, dropRightWhile_eq_rdropWhile, dropRightWhile_eq_rdropWhile]
  exact List.rdropWhile_idempotent p (cs.dropWhile p)

@[simp] theorem trim_trim (s : String) : trim (trim s) = trim s := by
  simp [trim, strip_strip]

/-- A text in which nothing is blank has no blanks around it. -/
theorem trim_of_notBlank {s : String} (h : ∀ c ∈ s.toList, isBlank c = false) : trim s = s := by
  have stays : ∀ {cs : List Char}, (∀ c ∈ cs, isBlank c = false) → cs.dropWhile isBlank = cs := by
    intro cs hcs
    cases cs with
    | nil => rfl
    | cons c cs => rw [List.dropWhile_cons_of_neg (by simp [hcs c (List.mem_cons_self ..)])]
  rw [trim, strip, stays h, dropRightWhile, stays fun c hc => h c (List.mem_reverse.1 hc),
    List.reverse_reverse, String.ofList_toList]

/-- A visible character of ASCII is no blank. -/
theorem isBlank_of_visible {c : Char} (low : 0x21 ≤ c.toNat) (high : c.toNat ≤ 0x7E) :
    isBlank c = false := by
  have outside : ∀ r ∈ blanks, r.2 < 0x21 ∨ 0x7E < r.1 := by decide
  rw [isBlank, Ranges.has, List.any_eq_false]
  intro r hr
  rw [Bool.and_eq_true, decide_eq_true_eq, decide_eq_true_eq]
  rcases outside r hr with h | h
  · omega
  · omega

/-- What is left without the blanks around it is empty only where there is nothing but blanks. -/
theorem trim_eq_empty_iff {s : String} : trim s = "" ↔ ∀ c ∈ s.toList, isBlank c = true := by
  have stripped : trim s = "" ↔ strip isBlank s.toList = [] := by
    rw [trim, ← String.toList_inj, String.toList_ofList]
    rfl
  rw [stripped, strip, dropRightWhile_eq_rdropWhile, List.rdropWhile_eq_nil_iff]
  constructor
  · intro h c hc
    by_contra hne
    have kept : s.toList.dropWhile isBlank ≠ [] := fun nil =>
      hne (List.dropWhile_eq_nil_iff.1 nil c hc)
    have stays := List.head_dropWhile_not isBlank kept
    rw [h _ (List.head_mem kept)] at stays
    cases stays
  · intro h c hc
    exact h c ((List.dropWhile_suffix isBlank).mem hc)

/-- What is left without the blanks at its end has no character that was not there. -/
theorem notMem_trimRight {c : Char} {s : String} (h : c ∉ s.toList) :
    c ∉ (trimRight s).toList := by
  rw [trimRight, String.toList_ofList, dropRightWhile_eq_rdropWhile]
  exact fun there => h ((List.rdropWhile_prefix isBlank s.toList).mem there)

/-- Every word has a letter: those that are cut, and the one that is being read. -/
theorem wordsFrom_ne_nil {word cs w : List Char} (h : w ∈ wordsFrom word cs) : w ≠ [] := by
  induction cs generalizing word with
  | nil =>
    rw [wordsFrom] at h
    split at h
    · simp at h
    · next hw =>
      obtain rfl : w = word.reverse := by simpa using h
      simpa using hw
  | cons c r ih =>
    rw [wordsFrom] at h
    split at h
    · split at h
      · exact ih h
      · next hw =>
        rcases List.mem_cons.1 h with rfl | h
        · simpa using hw
        · exact ih h
    · exact ih h

theorem ne_empty_of_mem_words {s w : String} (h : w ∈ words s) : w ≠ "" := by
  obtain ⟨cs, hcs, rfl⟩ := List.mem_map.1 h
  have hne := wordsFrom_ne_nil hcs
  intro he
  exact hne (by simpa using congrArg String.toList he)

theorem notBlank_of_mem_wordsFrom {word cs w : List Char} (hword : ∀ c ∈ word, isBlank c = false)
    (h : w ∈ wordsFrom word cs) : ∀ c ∈ w, isBlank c = false := by
  induction cs generalizing word with
  | nil =>
    rw [wordsFrom] at h
    split at h
    · cases h
    · obtain rfl := List.mem_singleton.1 h
      exact fun c hc => hword c (List.mem_reverse.1 hc)
  | cons c r ih =>
    rw [wordsFrom] at h
    split at h
    · split at h
      · exact ih (List.forall_mem_nil _) h
      · rcases List.mem_cons.1 h with rfl | h
        · exact fun c hc => hword c (List.mem_reverse.1 hc)
        · exact ih (List.forall_mem_nil _) h
    · next notBlank =>
      exact ih (List.forall_mem_cons.2 ⟨by simpa using notBlank, hword⟩) h

/-- No word of a text has a blank in it. -/
theorem notBlank_of_mem_words {s w : String} (h : w ∈ words s) :
    ∀ c ∈ w.toList, isBlank c = false := by
  obtain ⟨cs, hcs, rfl⟩ := List.mem_map.1 h
  rw [String.toList_ofList]
  exact notBlank_of_mem_wordsFrom (List.forall_mem_nil _) hcs

/-! ## Words that are cut again -/

/-- Letters join the word that is being read. -/
theorem wordsFrom_append {w : List Char} (hw : ∀ c ∈ w, isBlank c = false)
    (word rest : List Char) : wordsFrom word (w ++ rest) = wordsFrom (w.reverse ++ word) rest := by
  induction w generalizing word with
  | nil => rfl
  | cons c w ih =>
    obtain ⟨hc, hw⟩ := List.forall_mem_cons.1 hw
    rw [List.cons_append, wordsFrom, hc, if_neg Bool.false_ne_true, ih hw, List.reverse_cons,
      List.append_assoc, List.singleton_append]

theorem wordsFrom_intercalate {ws : List (List Char)}
    (hws : ∀ w ∈ ws, w ≠ [] ∧ ∀ c ∈ w, isBlank c = false) :
    wordsFrom [] ([' '].intercalate ws) = ws := by
  induction ws with
  | nil => rfl
  | cons w ws ih =>
    obtain ⟨⟨ne, letters⟩, hws⟩ := List.forall_mem_cons.1 hws
    have read : ¬ w.reverse.isEmpty = true := by simpa using ne
    cases ws with
    | nil =>
      rw [List.intercalate_singleton, ← List.append_nil w, wordsFrom_append letters,
        List.append_nil, List.append_nil, wordsFrom, if_neg read, List.reverse_reverse]
    | cons v vs =>
      have blank : isBlank ' ' = true := by decide
      rw [List.intercalate_cons_cons, List.append_assoc, wordsFrom_append letters,
        List.append_nil, List.singleton_append, wordsFrom, if_pos blank, if_neg read,
        List.reverse_reverse, ih hws]

/-- Words without blanks are the words of the text that is joined from them. -/
theorem words_unwords {ws : List String}
    (hws : ∀ w ∈ ws, w ≠ "" ∧ ∀ c ∈ w.toList, isBlank c = false) : words (unwords ws) = ws := by
  have letters : ∀ w ∈ ws.map String.toList, w ≠ [] ∧ ∀ c ∈ w, isBlank c = false := by
    simpa using hws
  have joined : (unwords ws).toList = [' '].intercalate (ws.map String.toList) :=
    String.toList_intercalate
  rw [words, joined, wordsFrom_intercalate letters, List.map_map]
  simp [Function.comp_def]

/-- A text without blanks is one word. -/
theorem words_of_notBlank {w : String} (hne : w ≠ "") (hw : ∀ c ∈ w.toList, isBlank c = false) :
    words w = [w] := by
  have alone := words_unwords (List.forall_mem_singleton.2 (⟨hne, hw⟩ : w ≠ "" ∧ _))
  rwa [unwords, String.intercalate_singleton] at alone

/-- A blank ends the word that is being read, and what stands behind it is cut on its own. -/
theorem wordsFrom_append_blank {c : Char} (blank : isBlank c = true) (word cs ds : List Char) :
    wordsFrom word (cs ++ c :: ds) = wordsFrom word cs ++ wordsFrom [] ds := by
  induction cs generalizing word with
  | nil =>
    simp only [List.nil_append, wordsFrom, blank, if_true]
    split
    · rfl
    · rfl
  | cons d cs ih =>
    simp only [List.cons_append, wordsFrom, ih]
    split
    · split
      · rfl
      · rfl
    · rfl

/-- Where a text stands behind another, apart by a space, its words stand behind the other's. -/
theorem words_append (s t : String) : words (s ++ " " ++ t) = words s ++ words t := by
  have blank : isBlank ' ' = true := by decide
  have joined : (s ++ " " ++ t).toList = s.toList ++ ' ' :: t.toList := by simp
  rw [words, joined, wordsFrom_append_blank blank, List.map_append]
  rfl

theorem wordsFrom_dropWhile (cs : List Char) :
    wordsFrom [] (cs.dropWhile isBlank) = wordsFrom [] cs := by
  induction cs with
  | nil => rfl
  | cons c cs ih =>
    by_cases blank : isBlank c = true
    · rw [List.dropWhile_cons_of_pos blank, ih, wordsFrom, if_pos blank]
      rfl
    · rw [List.dropWhile_cons_of_neg blank]

/-- Blanks end the word that is being read, and nothing else. -/
theorem wordsFrom_append_blanks {bs : List Char} (hbs : ∀ c ∈ bs, isBlank c = true)
    (word cs : List Char) : wordsFrom word (cs ++ bs) = wordsFrom word cs := by
  have blanks : ∀ {word}, wordsFrom word bs = wordsFrom word [] := by
    induction bs with
    | nil => exact rfl
    | cons c bs ih =>
      obtain ⟨blank, hbs⟩ := List.forall_mem_cons.1 hbs
      simp [wordsFrom, blank, ih hbs]
  induction cs generalizing word with
  | nil => exact blanks
  | cons c cs ih => rw [List.cons_append, wordsFrom, wordsFrom, ih, ih]

/-- Blanks around a text make no words. -/
theorem words_trim (s : String) : words (trim s) = words s := by
  have ends : ∀ cs : List Char, wordsFrom [] (dropRightWhile isBlank cs) = wordsFrom [] cs := by
    intro cs
    have trailing : ∀ c ∈ cs.rtakeWhile isBlank, isBlank c = true :=
      fun c => List.mem_rtakeWhile_imp
    have cut := wordsFrom_append_blanks trailing [] (cs.rdropWhile isBlank)
    rw [List.rdropWhile_append_rtakeWhile] at cut
    exact cut.symm
  rw [words, trim, String.toList_ofList, strip, ends, wordsFrom_dropWhile]
  rfl

/-- Words that are there and not empty are joined to a text that is not empty. -/
theorem unwords_ne_empty {ws : List String} (hne : ws ≠ []) (hw : ∀ w ∈ ws, w ≠ "") :
    unwords ws ≠ "" := by
  cases ws with
  | nil => exact absurd rfl hne
  | cons w ws =>
    have hw' := hw w (List.mem_cons_self ..)
    cases ws with
    | nil => simpa [unwords] using hw'
    | cons v vs =>
      rw [unwords, String.intercalate_cons_cons]
      simp [hw']

end NetLab.Text
