import Mathlib.Order.Bounds.Defs
import NetLab.Network.Basic
import NetLab.Proofs.Collection.Roster

set_option autoImplicit false

/-!
# Numbered links

The number by which a link is named is free: of one number more than there are ids in use, one at
least names no link.  So a numbered link never clashes, neither with a link that is there nor with
an id that is kept back for one that is still to come.  It is the first free number that is found
(`Network.takeLinkId_first`), so a search that goes up number by number ends there.
-/

namespace NetLab

/-- Different numbers name different links. -/
theorem Link.autoId_injective {a b : Nat} (h : autoId a = autoId b) : a = b := by
  have digits : (toString a).toList = (toString b).toList := by
    have chars := congrArg String.toList h
    rw [autoId, autoId, String.toList_append, String.toList_append] at chars
    exact List.append_cancel_left chars
  have read := congrArg (fun cs => Nat.ofDigitChars 10 cs 0) digits
  simpa [Nat.toString_eq_repr, Nat.toList_repr] using read

theorem Link.autoId_ne_empty (k : Nat) : autoId k ≠ "" := by
  intro empty
  have chars := congrArg String.toList empty
  simp [autoId] at chars

namespace Network

/-- If no more ids are taken from a number on than numbers are tried, the number that is found is
free.  The induction is on the tries: a number that is taken uses up an id. -/
theorem freeNumber_free {taken : String → Bool} {ids : List String} {tries k : Nat}
    (few : ids.length ≤ tries)
    (known : ∀ j, k ≤ j → taken (Link.autoId j) = true → Link.autoId j ∈ ids) :
    taken (Link.autoId (freeNumber taken tries k)) = false := by
  induction tries generalizing ids k with
  | zero =>
    obtain rfl : ids = [] := List.eq_nil_of_length_eq_zero (Nat.le_zero.1 few)
    rw [freeNumber, Bool.eq_false_iff]
    intro h
    cases known k (Nat.le_refl k) h
  | succ tries ih =>
    rw [freeNumber]
    split
    · next h =>
      have used : Link.autoId k ∈ ids := known k (Nat.le_refl k) h
      have fewer : (ids.erase (Link.autoId k)).length ≤ tries := by
        rw [List.length_erase_of_mem used]
        exact Nat.sub_le_of_le_add few
      refine ih fewer fun j hj hj' => ?_
      have other : Link.autoId j ≠ Link.autoId k := fun same =>
        absurd (Link.autoId_injective same) (Nat.ne_of_gt hj)
      exact (List.mem_erase_of_ne other).2 (known j (Nat.le_of_succ_le hj) hj')
    · next h => exact Bool.eq_false_iff.2 h

/-- The search starts at `k`, and goes past a number only if that is taken. -/
theorem freeNumber_first (taken : String → Bool) (tries k : Nat) :
    k ≤ freeNumber taken tries k ∧
      ∀ j, k ≤ j → j < freeNumber taken tries k → taken (Link.autoId j) = true := by
  induction tries generalizing k with
  | zero => exact ⟨Nat.le_refl k, fun j low high => absurd low (Nat.not_le_of_lt high)⟩
  | succ tries ih =>
    unfold freeNumber
    split
    · next used =>
      obtain ⟨low, passed⟩ := ih (k + 1)
      refine ⟨by omega, fun j hj high => ?_⟩
      rcases Nat.eq_or_lt_of_le hj with rfl | hj
      · exact used
      · exact passed j hj high
    · exact ⟨Nat.le_refl k, fun j low high => absurd low (Nat.not_le_of_lt high)⟩

/-- The texts among the keys of links. -/
def linkTexts (n : Network) : List String :=
  n.links.keys.filterMap fun
    | .text s => some s
    | _ => none

theorem mem_linkTexts {n : Network} {id : String} :
    id ∈ n.linkTexts ↔ n.links.contains (.text id) = true := by
  rw [Roster.contains_iff, ← Roster.mem_keys_iff, linkTexts, List.mem_filterMap]
  constructor
  · rintro ⟨k, hk, h⟩
    split at h
    · cases h
      exact hk
    · cases h
  · exact fun h => ⟨.text id, h, rfl⟩

/-- The id by which a link is numbered names no link, and is not one of those kept back. -/
theorem takeLinkId_free (n : Network) (reserved : List String) :
    n.links.contains (.text (n.takeLinkId reserved).1) = false ∧
      (n.takeLinkId reserved).1 ∉ reserved := by
  have few : (n.linkTexts ++ reserved).length ≤ n.links.size + reserved.length := by
    have texts : n.linkTexts.length ≤ n.links.keys.length := List.length_filterMap_le _ _
    have keys : n.links.keys.length = n.links.size := List.length_map _
    rw [List.length_append, ← keys]
    exact Nat.add_le_add_right texts _
  let taken (id : String) : Bool := n.links.contains (.text id) || reserved.contains id
  have known : ∀ j, n.nextLink ≤ j → taken (Link.autoId j) = true →
      Link.autoId j ∈ n.linkTexts ++ reserved := by
    intro j _ h
    rcases Bool.or_eq_true_iff.1 h with h | h
    · exact List.mem_append_left _ (mem_linkTexts.2 h)
    · exact List.mem_append_right _ (by simpa using h)
  have free := freeNumber_free few known
  obtain ⟨link, kept⟩ := Bool.or_eq_false_iff.1 free
  have notKept : reserved.contains (n.takeLinkId reserved).1 = false := kept
  exact ⟨link, by simpa using notKept⟩

/-- The numbers, from the number of the next link on, that name no link and are not kept back. -/
def freeNumbers (n : Network) (reserved : List String) : Set Nat :=
  { k | n.nextLink ≤ k ∧ n.links.contains (.text (Link.autoId k)) = false ∧
    Link.autoId k ∉ reserved }

/-- A link is named by the first free number, and the number behind it is the next one. -/
theorem takeLinkId_first (n : Network) (reserved : List String) :
    ∃ k, IsLeast (n.freeNumbers reserved) k ∧
      n.takeLinkId reserved = (Link.autoId k, { n with nextLink := k + 1 }) := by
  let taken (id : String) : Bool := n.links.contains (.text id) || reserved.contains id
  obtain ⟨low, passed⟩ :=
    freeNumber_first taken (n.links.size + reserved.length) n.nextLink
  obtain ⟨new, apart⟩ := n.takeLinkId_free reserved
  refine ⟨_, ⟨⟨low, new, apart⟩, ?_⟩, rfl⟩
  rintro j ⟨start, free, unreserved⟩
  by_contra before
  have used := passed j start (Nat.lt_of_not_le before)
  simp [taken, free, unreserved] at used

end Network

end NetLab
