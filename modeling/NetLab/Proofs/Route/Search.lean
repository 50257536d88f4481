import Mathlib.Data.List.Nodup
import Mathlib.Data.List.Perm.Subperm
import NetLab.Proofs.Route.Walk

set_option autoImplicit false

/-!
# What a search finds

The visits that a search has made are a tree (`Explored`): every device was found once, from a
device that was found before and to which a link joins it.  So the way back from a device that was
found is a walk to it, and what is chosen on this walk is settled when the device is found
(`turnsTo`): later visits change none of it.
-/

namespace NetLab.Route

variable {ν : Type} {links : List (Link ν)} {source target current before uid : ν}
  {found new : List (Visit ν)} {queue done near : List ν}

/-! ## Visits -/

/-- Visits, newest first, that a search from a device can have made. -/
inductive Explored (links : List (Link ν)) (source : ν) : List (Visit ν) → Prop where
  | start : Explored links source [⟨source, none⟩]
  | visit {before uid : ν} {found : List (Visit ν)} (tree : Explored links source found)
      (known : before ∈ found.map (·.uid)) (fresh : uid ∉ found.map (·.uid))
      (next : Adjacent links before uid) : Explored links source (⟨uid, some before⟩ :: found)

namespace Explored

/-- The visits that were made before the newest one, if there are any. -/
theorem of_cons {v : Visit ν} (h : Explored links source (v :: found))
    (known : uid ∈ found.map (·.uid)) :
    Explored links source found ∧ v.uid ∉ found.map (·.uid) := by
  cases h with
  | start => cases known
  | visit tree _ fresh _ => exact ⟨tree, fresh⟩

theorem nodup (h : Explored links source found) : (found.map (·.uid)).Nodup := by
  induction h with
  | start => exact List.nodup_singleton source
  | visit _ _ fresh _ ih => exact List.nodup_cons.2 ⟨fresh, ih⟩

theorem source_mem (h : Explored links source found) : source ∈ found.map (·.uid) := by
  induction h with
  | start => exact List.mem_singleton_self source
  | visit _ _ _ _ ih => exact List.mem_cons_of_mem _ ih

/-- Only the start was found from nowhere. -/
theorem eq_source (h : Explored links source found) (made : ⟨uid, none⟩ ∈ found) :
    uid = source := by
  induction h with
  | start => exact congrArg Visit.uid (List.mem_singleton.1 made)
  | visit _ _ _ _ ih =>
    rcases List.mem_cons.1 made with eq | made
    · cases eq
    · exact ih made

/-- A device was found from one that is known and to which a link joins it. -/
theorem known_of_visit (h : Explored links source found) (made : ⟨uid, some before⟩ ∈ found) :
    before ∈ found.map (·.uid) ∧ Adjacent links before uid := by
  induction h with
  | start => cases List.mem_singleton.1 made
  | visit _ known _ next ih =>
    rcases List.mem_cons.1 made with eq | made
    · cases eq
      exact ⟨List.mem_cons_of_mem _ known, next⟩
    · exact ⟨List.mem_cons_of_mem _ (ih made).1, (ih made).2⟩

/-- The links name everything that is found, but for the start. -/
theorem subset_ends (h : Explored links source found) :
    found.map (·.uid) ⊆ source :: links.flatMap fun l => [l.source, l.target] := by
  induction h with
  | start => exact List.cons_subset_cons source (List.nil_subset _)
  | visit _ _ _ next ih =>
    obtain ⟨l, hl, ends⟩ := next
    refine List.cons_subset.2 ⟨List.mem_cons_of_mem _ (List.mem_flatMap.2 ⟨l, hl, ?_⟩), ih⟩
    rcases ends with ⟨-, rfl⟩ | ⟨-, rfl⟩
    · exact List.mem_cons_of_mem _ (List.mem_singleton_self _)
    · exact List.mem_cons_self

/-- No more devices are found than the links name, and the start. -/
theorem length_le (h : Explored links source found) : found.length ≤ 2 * links.length + 1 := by
  have le := (List.subperm_of_subset h.nodup h.subset_ends).length_le
  have ends : (links.flatMap fun l => [l.source, l.target]).length = 2 * links.length := by
    simp [List.length_flatMap, Nat.mul_comm]
  rwa [List.length_map, List.length_cons, ends] at le

end Explored

/-! ## The way back -/

variable [BEq ν] [LawfulBEq ν]

theorem wayBack_cons_of_ne {v : Visit ν} (h : v.uid ≠ uid) (found : List (Visit ν)) :
    wayBack uid (v :: found) = wayBack uid found := by
  rw [wayBack, if_neg (by simpa using h)]

/-- A visit of a new device is not on the way back from one that was known before. -/
theorem wayBack_cons_of_mem {v : Visit ν} (fresh : v.uid ∉ found.map (·.uid))
    (known : uid ∈ found.map (·.uid)) : wayBack uid (v :: found) = wayBack uid found :=
  wayBack_cons_of_ne (ne_of_mem_of_not_mem known fresh).symm found

theorem wayBack_cons_self (uid before : ν) (found : List (Visit ν)) :
    wayBack uid (⟨uid, some before⟩ :: found) = uid :: wayBack before found := by
  rw [wayBack, if_pos (beq_self_eq_true uid)]

/-- The way back goes from visit to earlier visit. -/
theorem wayBack_sublist (uid : ν) (found : List (Visit ν)) :
    (wayBack uid found).Sublist (found.map (·.uid)) := by
  induction found generalizing uid with
  | nil => exact List.nil_sublist _
  | cons v found ih =>
    obtain ⟨x, cameFrom⟩ := v
    by_cases hx : x = uid
    · subst hx
      cases cameFrom with
      | none =>
        rw [wayBack, if_pos (beq_self_eq_true x)]
        exact (List.nil_sublist _).cons_cons x
      | some before =>
        rw [wayBack_cons_self]
        exact (ih before).cons_cons x
    · rw [wayBack_cons_of_ne hx]
      exact (ih uid).cons x

namespace Explored

theorem wayBack_source (h : Explored links source found) : wayBack source found = [source] := by
  induction h with
  | start => rw [wayBack, if_pos (beq_self_eq_true source)]
  | visit tree _ fresh _ ih => rw [wayBack_cons_of_mem fresh tree.source_mem, ih]

/-- The way back from a device that was found from another one is the way back from that one and
the device.  Where the visits were made later than that makes no difference. -/
theorem wayBack_visit (h : Explored links source found) (made : ⟨uid, some before⟩ ∈ found) :
    wayBack uid found = uid :: wayBack before found := by
  induction h with
  | start => cases List.mem_singleton.1 made
  | visit tree known fresh _ ih =>
    rcases List.mem_cons.1 made with eq | made
    · cases eq
      rw [wayBack_cons_self, wayBack_cons_of_mem fresh known]
    · rw [wayBack_cons_of_mem fresh (List.mem_map_of_mem made),
        wayBack_cons_of_mem fresh (tree.known_of_visit made).1, ih made]

/-- New visits do not change the way back from a device that was known before. -/
theorem wayBack_append (h : Explored links source (new ++ found))
    (known : uid ∈ found.map (·.uid)) : wayBack uid (new ++ found) = wayBack uid found := by
  induction new with
  | nil => rfl
  | cons v new ih =>
    have known' : uid ∈ (new ++ found).map (·.uid) := by
      rw [List.map_append]
      exact List.mem_append_right _ known
    obtain ⟨tree, fresh⟩ : Explored links source (new ++ found) ∧ _ := h.of_cons known'
    exact (wayBack_cons_of_mem fresh known').trans (ih tree)

/-- The way back, reversed, is a walk to the device. -/
theorem isWalk (h : Explored links source found) (known : uid ∈ found.map (·.uid)) :
    IsWalk links source uid (wayBack uid found).reverse := by
  induction h generalizing uid with
  | start =>
    obtain rfl : uid = source := List.mem_singleton.1 known
    have alone : Explored links uid [⟨uid, none⟩] := .start
    rw [alone.wayBack_source]
    exact .single links uid
  | @visit before x found tree known' fresh next ih =>
    by_cases hx : x = uid
    · subst hx
      rw [wayBack_cons_self, List.reverse_cons]
      exact (ih known').concat next
    · rw [wayBack_cons_of_ne hx]
      exact ih ((List.mem_cons.1 known).resolve_left (Ne.symm hx))

end Explored

/-! ## Choices on the way to a device -/

/-- The choices that are made on the way on which a device was found. -/
def turnsTo (links : List (Link ν)) (found : List (Visit ν)) (uid : ν) : List Nat :=
  choices links (wayBack uid found).reverse

namespace Explored

theorem turnsTo_source (h : Explored links source found) : turnsTo links found source = [] := by
  rw [turnsTo, h.wayBack_source]
  rfl

theorem turnsTo_visit (h : Explored links source found) (made : ⟨uid, some before⟩ ∈ found) :
    turnsTo links found uid =
      turnsTo links found before ++ [(neighbours links before).idxOf uid] := by
  rw [turnsTo, h.wayBack_visit made, List.reverse_cons,
    choices_concat (h.isWalk (h.known_of_visit made).1).ends]
  rfl

theorem turnsTo_append (h : Explored links source (new ++ found))
    (known : uid ∈ found.map (·.uid)) :
    turnsTo links (new ++ found) uid = turnsTo links found uid := by
  rw [turnsTo, h.wayBack_append known]
  rfl

end Explored

/-! ## First visits -/

omit [LawfulBEq ν] in
theorem cameFrom_of_mem_firstVisits {v : Visit ν} (h : v ∈ firstVisits current found near) :
    v.cameFrom = some current := by
  induction near generalizing found with
  | nil => cases h
  | cons x near ih =>
    rw [firstVisits] at h
    split at h
    · exact ih h
    · rcases List.mem_cons.1 h with rfl | h
      · rfl
      · exact ih h

/-- The devices that are visited first are the neighbours that were not found before. -/
theorem mem_firstVisits_iff : uid ∈ (firstVisits current found near).map (·.uid) ↔
    uid ∈ near ∧ uid ∉ found.map (·.uid) := by
  induction near generalizing found with
  | nil => simp [firstVisits]
  | cons x near ih =>
    have known : found.any (·.uid == x) = true ↔ x ∈ found.map (·.uid) := by simp
    rw [firstVisits]
    split
    · next hx =>
      rw [ih, List.mem_cons]
      have ne : uid ∉ found.map (·.uid) → uid ≠ x := by
        rintro fresh rfl
        exact fresh (known.1 hx)
      tauto
    · next hx =>
      rw [List.map_cons, List.mem_cons, ih, List.map_cons, List.mem_cons, List.mem_cons]
      have fresh : uid = x → uid ∉ found.map (·.uid) := by
        rintro rfl
        exact fun h => hx (known.2 h)
      tauto

/-- Neighbours are visited in the order in which they first stand among the neighbours. -/
theorem pairwise_firstVisits (current : ν) (found : List (Visit ν)) (near : List ν) :
    ((firstVisits current found near).map (·.uid)).Pairwise fun u v =>
      near.idxOf u < near.idxOf v := by
  induction near generalizing found with
  | nil => exact List.Pairwise.nil
  | cons x near ih =>
    have later : ∀ {u v : ν}, u ≠ x → v ≠ x → near.idxOf u < near.idxOf v →
        (x :: near).idxOf u < (x :: near).idxOf v := by
      intro u v hu hv lt
      rw [List.idxOf_cons_ne _ hu.symm, List.idxOf_cons_ne _ hv.symm]
      exact Nat.succ_lt_succ lt
    rw [firstVisits]
    split
    · next hx =>
      have known : x ∈ found.map (·.uid) := by simpa using hx
      have other : ∀ {u : ν}, u ∈ (firstVisits current found near).map (·.uid) → u ≠ x :=
        fun hu => (ne_of_mem_of_not_mem known (mem_firstVisits_iff.1 hu).2).symm
      exact (ih found).imp_of_mem fun hu hv lt => later (other hu) (other hv) lt
    · have other : ∀ {u : ν}, u ∈ (firstVisits current (⟨x, some current⟩ :: found) near).map
          (·.uid) → u ≠ x := by
        rintro _ hu rfl
        exact (mem_firstVisits_iff.1 hu).2 List.mem_cons_self
      refine List.pairwise_cons.2 ⟨fun v hv => ?_, ?_⟩
      · rw [List.idxOf_cons_self, List.idxOf_cons_ne _ (other hv).symm]
        exact Nat.succ_pos _
      · exact (ih _).imp_of_mem fun hu hv lt => later (other hu) (other hv) lt

theorem Explored.firstVisits (h : Explored links source found)
    (known : current ∈ found.map (·.uid)) (next : ∀ v ∈ near, Adjacent links current v) :
    Explored links source ((Route.firstVisits current found near).reverse ++ found) := by
  induction near generalizing found with
  | nil => exact h
  | cons x near ih =>
    have rest : ∀ v ∈ near, Adjacent links current v := fun v hv =>
      next v (List.mem_cons_of_mem x hv)
    rw [Route.firstVisits]
    split
    · exact ih h known rest
    · next fresh =>
      have visited : Explored links source (⟨x, some current⟩ :: found) :=
        .visit h known (by simpa using fresh) (next x List.mem_cons_self)
      simpa using ih visited (List.mem_cons_of_mem _ known) rest

end NetLab.Route
