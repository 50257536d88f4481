import Mathlib.Data.List.Nodup
import NetLab.Schema.Reference

set_option autoImplicit false

/-!
# When references hold together

Nothing is found wrong with the references of a document exactly if its device ids are different,
the ids that its links are given are different, and every link joins two devices of the document.
The ids that were met on the way are the invariant of the two passes, over devices and over links.
-/

namespace NetLab.Schema

variable {ids seen : List String}

/-- No value stands twice, and none was seen before. -/
theorem repeated_eq_nil_iff {xs : List String} (h : seen.Nodup) :
    repeated seen xs = [] ↔ (seen ++ xs).Nodup := by
  induction xs generalizing seen with
  | nil => simp [repeated, h]
  | cons x xs ih =>
    rw [repeated, List.perm_middle.nodup_iff]
    by_cases hx : x ∈ seen
    · simp [hx]
    · rw [if_neg (by simpa using hx), ih (List.nodup_cons.2 ⟨hx, h⟩), List.cons_append]

theorem linkProblems_eq_nil_iff {place : Nat} {l : LinkDoc} :
    linkProblems ids seen place l = [] ↔
      (∀ id, l.id = some id → id ∉ seen) ∧
        l.source ∈ ids ∧ l.target ∈ ids ∧ l.source ≠ l.target := by
  cases hid : l.id with
  | none => simp [linkProblems, hid]
  | some id => simp [linkProblems, hid]

theorem linksProblems_eq_nil_iff {place : Nat} {ls : List LinkDoc} (h : seen.Nodup) :
    linksProblems ids seen place ls = [] ↔
      (seen ++ ls.filterMap (·.id)).Nodup ∧
        ∀ l ∈ ls, l.source ∈ ids ∧ l.target ∈ ids ∧ l.source ≠ l.target := by
  induction ls generalizing seen place with
  | nil => simp [linksProblems, h]
  | cons l ls ih =>
    rw [linksProblems, List.append_eq_nil_iff, linkProblems_eq_nil_iff, List.forall_mem_cons]
    cases hid : l.id with
    | none =>
      rw [List.filterMap_cons_none hid, Option.toList_none, List.append_nil, ih h]
      simp [and_left_comm]
    | some id =>
      rw [List.filterMap_cons_some hid, Option.toList_some,
        List.append_cons seen id (ls.filterMap (·.id))]
      have extended : (seen ++ [id]).Nodup ↔ id ∉ seen := by
        rw [← List.concat_eq_append, List.nodup_concat]
        exact and_iff_left h
      by_cases new : id ∈ seen
      · have twice : ¬(seen ++ [id] ++ ls.filterMap (·.id)).Nodup := fun different =>
          extended.1 (List.nodup_append.1 different).1 new
        exact iff_of_false (fun holds => holds.1.1 id rfl new) fun holds => twice holds.1
      · rw [ih (extended.2 new)]
        simp [new, and_left_comm]

theorem TopologyDoc.referenceProblems_eq_nil_iff {t : TopologyDoc} :
    t.referenceProblems = [] ↔ (t.devices.map (·.id)).Nodup ∧ (t.links.filterMap (·.id)).Nodup ∧
      ∀ l ∈ t.links, l.source ∈ t.devices.map (·.id) ∧ l.target ∈ t.devices.map (·.id) ∧
        l.source ≠ l.target := by
  rw [referenceProblems, List.append_eq_nil_iff, List.map_eq_nil_iff,
    repeated_eq_nil_iff List.nodup_nil, linksProblems_eq_nil_iff List.nodup_nil]
  rfl

end NetLab.Schema
