import NetLab.Text.Pad
import NetLab.Text.Split

set_option autoImplicit false

/-!
# The parts of a text

A text is cut as any list is.  No part has a separator in it, and texts without separators are the
parts of the text that is joined from them (`split_intercalate`).
-/

namespace NetLab.Text

theorem splitChars_eq_splitOn (sep : Char) (cs : List Char) :
    splitChars sep cs = cs.splitOn sep := by
  induction cs with
  | nil => rfl
  | cons c cs ih =>
    rw [splitChars, ih, List.splitOn_cons_eq_if_modifyHead]
    by_cases hc : c = sep
    · rw [if_pos hc, if_pos (beq_iff_eq.2 hc)]
    · rw [if_neg hc, if_neg (by simpa using hc)]
      cases hparts : cs.splitOn sep with
      | nil => exact absurd hparts (List.splitOn_ne_nil sep cs)
      | cons part parts => rfl

theorem split_eq_splitOn (sep : Char) (s : String) :
    split sep s = (s.toList.splitOn sep).map String.ofList := by
  rw [split, splitChars_eq_splitOn]

theorem split_ne_nil (sep : Char) (s : String) : split sep s ≠ [] := by
  simp [split_eq_splitOn]

theorem notMem_of_mem_splitChars {sep : Char} {cs part : List Char}
    (h : part ∈ splitChars sep cs) : sep ∉ part := by
  induction cs generalizing part with
  | nil =>
    obtain rfl := List.mem_singleton.1 h
    exact List.not_mem_nil
  | cons c cs ih =>
    rw [splitChars] at h
    split at h
    · rcases List.mem_cons.1 h with rfl | h
      · exact List.not_mem_nil
      · exact ih h
    · next other =>
      cases hparts : splitChars sep cs with
      | nil =>
        rw [hparts] at h
        obtain rfl := List.mem_singleton.1 h
        simpa using Ne.symm other
      | cons first parts =>
        rw [hparts] at ih h
        rcases List.mem_cons.1 h with rfl | h
        · exact List.not_mem_cons_of_ne_of_not_mem (Ne.symm other) (ih List.mem_cons_self)
        · exact ih (List.mem_cons_of_mem _ h)

/-- No part has a separator in it. -/
theorem notMem_of_mem_split {sep : Char} {s part : String} (h : part ∈ split sep s) :
    sep ∉ part.toList := by
  obtain ⟨cs, hcs, rfl⟩ := List.mem_map.1 h
  rw [String.toList_ofList]
  exact notMem_of_mem_splitChars hcs

/-- Texts without a separator are the parts of the text that is joined from them. -/
theorem split_intercalate {sep : Char} {parts : List String} (given : parts ≠ [])
    (whole : ∀ part ∈ parts, sep ∉ part.toList) :
    split sep ((String.singleton sep).intercalate parts) = parts := by
  rw [split_eq_splitOn, String.toList_intercalate, String.toList_singleton,
    List.splitOn_intercalate]
  · simp [List.map_map, Function.comp_def]
  · simpa using whole
  · simpa using given

/-- A text is joined again from its parts. -/
theorem intercalate_split (sep : Char) (s : String) :
    (String.singleton sep).intercalate (split sep s) = s := by
  rw [← String.toList_inj, String.toList_intercalate, String.toList_singleton, split_eq_splitOn,
    List.map_map]
  simp [Function.comp_def, List.intercalate_splitOn]

/-! ## Texts without a character -/

theorem notMem_padRight {c : Char} {s : String} (space : c ≠ ' ') (width : Nat)
    (h : c ∉ s.toList) : c ∉ (padRight width s).toList := by
  simp [padRight, h, space]

theorem notMem_intercalate {c : Char} {sep : String} {parts : List String}
    (between : c ∉ sep.toList) (h : ∀ part ∈ parts, c ∉ part.toList) :
    c ∉ (sep.intercalate parts).toList := by
  induction parts with
  | nil => simp
  | cons part parts ih =>
    obtain ⟨first, rest⟩ := List.forall_mem_cons.1 h
    cases parts with
    | nil => simpa using first
    | cons next parts =>
      rw [String.intercalate_cons_cons]
      simp only [String.toList_append, List.mem_append, not_or]
      exact ⟨⟨first, between⟩, ih rest⟩

end NetLab.Text
