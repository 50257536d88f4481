import Mathlib.Data.List.Sort
import NetLab.Proofs.Network.Success

set_option autoImplicit false

/-!
# Sorting forgets the order

What is sorted by texts that tell the items apart comes out the same, in whatever order it came in.
The order of values is no total order, but among texts it is.
-/

namespace NetLab

theorem Text.pairwise_mergeSort (ss : List String) :
    (ss.mergeSort fun a b => decide (a ≤ b)).Pairwise fun a b => a ≤ b := by
  have transitive : ∀ a b c : String, decide (a ≤ b) = true → decide (b ≤ c) = true →
      decide (a ≤ c) = true := by
    intro a b c hab hbc
    rw [decide_eq_true_eq] at hab hbc ⊢
    exact String.le_trans hab hbc
  have total : ∀ a b : String, (decide (a ≤ b) || decide (b ≤ a)) = true := by
    intro a b
    rw [Bool.or_eq_true, decide_eq_true_eq, decide_eq_true_eq]
    exact String.le_total a b
  exact (List.pairwise_mergeSort transitive total ss).imp fun hab => by simpa using hab

/-- Sorted texts do not tell in which order they came. -/
theorem Text.mergeSort_eq_of_perm {ss ts : List String} (h : ss.Perm ts) :
    (ss.mergeSort fun a b => decide (a ≤ b)) = ts.mergeSort fun a b => decide (a ≤ b) := by
  refine List.Perm.eq_of_pairwise (fun a b _ _ hab hba => String.le_antisymm hab hba)
    (pairwise_mergeSort ss) (pairwise_mergeSort ts) ?_
  exact (List.mergeSort_perm ss _).trans (h.trans (List.mergeSort_perm ts _).symm)

namespace Value

theorem isBefore_text (a b : String) : isBefore (.text a) (.text b) = decide (a < b) := by
  rw [isBefore, before]

variable {α : Type} {key : α → Value} {xs ys : List α}

/-- Items whose keys are texts come in the order of their keys. -/
theorem pairwise_sorted (h : ∀ x ∈ xs, ∃ s, key x = .text s) :
    (xs.mergeSort fun a b => !(key b).isBefore (key a)).Pairwise fun a b =>
      (key a).display ≤ (key b).display := by
  have order : ∀ a ∈ xs, ∀ b ∈ xs, (!(key b).isBefore (key a)) =
      decide ((key a).display ≤ (key b).display) := by
    intro a ha b hb
    obtain ⟨s, hs⟩ := h a ha
    obtain ⟨t, ht⟩ := h b hb
    rw [hs, ht, isBefore_text]
    change (!decide (t < s)) = decide (s ≤ t)
    rw [← decide_not]
    exact decide_eq_decide.2 String.not_lt
  -- the texts of the keys come out as sorted texts
  have mapped := List.map_mergeSort (f := fun x => (key x).display)
    (s := fun a b => decide (a ≤ b)) order
  have pairwise := Text.pairwise_mergeSort (xs.map fun x => (key x).display)
  rw [← mapped] at pairwise
  exact List.pairwise_map.1 pairwise

/-- Items whose keys are texts are sorted: they come out in the order of their keys. -/
theorem sortBy_texts (h : ∀ x ∈ xs, ∃ s, key x = .text s) :
    ∃ ys, sortBy key xs = .ok ys ∧ ys.Perm xs ∧
      ys.Pairwise fun a b => (key a).display ≤ (key b).display := by
  have texts : ∀ v ∈ xs.map key, ∃ s, v = .text s := by
    intro v hv
    obtain ⟨x, hx, rfl⟩ := List.mem_map.1 hv
    exact h x hx
  exact ⟨_, by rw [sortBy, if_pos (comparable_texts texts)], List.mergeSort_perm xs _,
    pairwise_sorted h⟩

/-- What is sorted by texts that tell the items apart comes out the same. -/
theorem sortBy_eq_of_perm (texts : ∀ x ∈ xs, ∃ s, key x = .text s)
    (apart : ∀ x ∈ xs, ∀ y ∈ xs, key x = key y → x = y) (h : xs.Perm ys) :
    sortBy key xs = sortBy key ys := by
  have texts' : ∀ y ∈ ys, ∃ s, key y = .text s := fun y hy => texts y (h.mem_iff.2 hy)
  have comparable : ∀ zs : List α, (∀ z ∈ zs, ∃ s, key z = .text s) →
      comparable (zs.map key) = true := by
    intro zs hz
    refine comparable_texts fun v hv => ?_
    obtain ⟨z, hmem, rfl⟩ := List.mem_map.1 hv
    exact hz z hmem
  rw [sortBy, sortBy, if_pos (comparable xs texts), if_pos (comparable ys texts')]
  refine congrArg Except.ok (List.Perm.eq_of_pairwise (fun a b ha hb hab hba => ?_)
    (pairwise_sorted texts) (pairwise_sorted texts') ?_)
  · have hxa : a ∈ xs := (List.mergeSort_perm xs _).mem_iff.1 ha
    have hxb : b ∈ xs := h.mem_iff.2 ((List.mergeSort_perm ys _).mem_iff.1 hb)
    obtain ⟨s, hs⟩ := texts a hxa
    obtain ⟨t, ht⟩ := texts b hxb
    rw [hs, ht] at hab hba
    refine apart a hxa b hxb ?_
    rw [hs, ht]
    exact congrArg Value.text (String.le_antisymm hab hba)
  · exact (List.mergeSort_perm xs _).trans (h.trans (List.mergeSort_perm ys _).symm)

end Value

end NetLab
