set_option autoImplicit false

/-!
# Rosters

A roster keeps one value for each key, in the order in which the keys came.  Giving a key a new
value leaves it in its place.  That no key stands twice is part of the type, so `get?` and the
list of entries say the same.
-/

namespace NetLab

/-- Entries with pairwise different keys, in the order in which the keys came. -/
structure Roster (κ β : Type) where
  entries : List (κ × β)
  nodup : (entries.map Prod.fst).Nodup
  deriving DecidableEq, Repr

namespace Roster

variable {κ β : Type}

/-- The roster without entries. -/
def empty : Roster κ β := ⟨[], List.nodup_nil⟩

instance : Inhabited (Roster κ β) := ⟨empty⟩

/-- The keys, in order. -/
def keys (r : Roster κ β) : List κ := r.entries.map Prod.fst

/-- The values, in the order of their keys. -/
def values (r : Roster κ β) : List β := r.entries.map Prod.snd

/-- The number of entries. -/
def size (r : Roster κ β) : Nat := r.entries.length

/-- The entries whose key and value pass a test. -/
def filter (p : κ → β → Bool) (r : Roster κ β) : Roster κ β :=
  ⟨r.entries.filter fun e => p e.1 e.2, r.nodup.sublist (List.filter_sublist.map Prod.fst)⟩

/-- Change values; the keys stay. -/
def mapValues (f : κ → β → β) (r : Roster κ β) : Roster κ β :=
  ⟨r.entries.map fun e => (e.1, f e.1 e.2), by
    have h : (r.entries.map fun e => (e.1, f e.1 e.2)).map Prod.fst = r.entries.map Prod.fst := by
      simp [Function.comp_def]
    exact h ▸ r.nodup⟩

variable [DecidableEq κ]

/-- The value of a key in a list of entries. -/
def find (k : κ) : List (κ × β) → Option β
  | [] => none
  | e :: es => if e.1 = k then some e.2 else find k es

/-- The value of a key. -/
def get? (r : Roster κ β) (k : κ) : Option β := find k r.entries

/-- The key has a value. -/
def contains (r : Roster κ β) (k : κ) : Bool := (r.get? k).isSome

theorem find_eq_some_iff {k : κ} {v : β} {es : List (κ × β)} (h : (es.map Prod.fst).Nodup) :
    find k es = some v ↔ (k, v) ∈ es := by
  induction es with
  | nil => simp [find]
  | cons e es ih =>
    obtain ⟨key, x⟩ := e
    simp only [List.map_cons, List.nodup_cons] at h
    by_cases hk : key = k
    · subst hk
      have hnot : ∀ y, (key, y) ∉ es := fun y hy => h.1 (List.mem_map.2 ⟨(key, y), hy, rfl⟩)
      simp [find, hnot v, eq_comm]
    · simp [find, hk, ih h.2, Ne.symm hk]

/-- Looking a key up and going through the entries say the same. -/
theorem get?_eq_some_iff {r : Roster κ β} {k : κ} {v : β} :
    r.get? k = some v ↔ (k, v) ∈ r.entries :=
  find_eq_some_iff r.nodup

/-- Set the value of a key in a list of entries: in its place, or at the end. -/
def write (k : κ) (v : β) : List (κ × β) → List (κ × β)
  | [] => [(k, v)]
  | e :: es => if e.1 = k then (k, v) :: es else e :: write k v es

theorem mem_keys_write {x k : κ} {v : β} {es : List (κ × β)} :
    x ∈ (write k v es).map Prod.fst ↔ x = k ∨ x ∈ es.map Prod.fst := by
  induction es with
  | nil => simp [write]
  | cons e es ih =>
    by_cases h : e.1 = k
    · simp [write, h]
    · simp only [write, h, if_false, List.map_cons, List.mem_cons, ih]
      constructor
      · rintro (rfl | rfl | hx) <;> simp_all
      · rintro (rfl | rfl | hx) <;> simp_all

theorem nodup_write {k : κ} {v : β} {es : List (κ × β)} (h : (es.map Prod.fst).Nodup) :
    ((write k v es).map Prod.fst).Nodup := by
  induction es with
  | nil => simp [write]
  | cons e es ih =>
    rw [List.map_cons, List.nodup_cons] at h
    by_cases hk : e.1 = k
    · subst hk
      simpa [write] using h
    · simp only [write, hk, if_false, List.map_cons, List.nodup_cons]
      refine ⟨fun hm => ?_, ih h.2⟩
      rcases mem_keys_write.1 hm with hm | hm
      · exact hk hm
      · exact h.1 hm

/-- Set the value of a key: in its place, or at the end. -/
def put (r : Roster κ β) (k : κ) (v : β) : Roster κ β :=
  ⟨write k v r.entries, nodup_write r.nodup⟩

theorem find_write {k key : κ} {v : β} {es : List (κ × β)} :
    find key (write k v es) = if key = k then some v else find key es := by
  induction es with
  | nil => simp [write, find, eq_comm]
  | cons e es ih =>
    by_cases hk : e.1 = k
    · subst hk
      simp only [write, find, if_true]
      split
      · next h => simp [h]
      · next h => rw [if_neg (Ne.symm h)]
    · by_cases hkey : e.1 = key
      · subst hkey
        simp [write, find, hk]
      · simp [write, find, hk, hkey, ih]

/-- Setting a key changes what is found under it and under no other key. -/
theorem get?_put {r : Roster κ β} {k key : κ} {v : β} :
    (r.put k v).get? key = if key = k then some v else r.get? key :=
  find_write

/-- What holds of all that is found and of a new entry holds of all that is found with it. -/
theorem forall_put {r : Roster κ β} {P : κ → β → Prop} {k : κ} {v : β}
    (h : ∀ key x, r.get? key = some x → P key x) (hv : P k v) :
    ∀ key x, (r.put k v).get? key = some x → P key x := by
  intro key x hx
  rw [get?_put] at hx
  split at hx
  · next same =>
    rw [same, ← Option.some.inj hx]
    exact hv
  · exact h key x hx

/-- Drop a key. -/
def erase (r : Roster κ β) (k : κ) : Roster κ β := r.filter fun key _ => key ≠ k

/-- A test on entries is a test on what is found. -/
theorem get?_filter {p : κ → β → Bool} {r : Roster κ β} {k : κ} :
    (r.filter p).get? k = (r.get? k).filter (p k) := by
  apply Option.ext
  intro v
  rw [get?_eq_some_iff, Option.filter_eq_some_iff, get?_eq_some_iff]
  simp [filter]

/-- A key that was dropped is not found, and every other key is found as before. -/
theorem get?_erase {r : Roster κ β} {k key : κ} :
    (r.erase k).get? key = if key = k then none else r.get? key := by
  rw [erase, get?_filter]
  by_cases h : key = k <;> cases r.get? key <;> simp [h, Option.filter]

theorem get?_erase_eq_some_iff {r : Roster κ β} {k key : κ} {v : β} :
    (r.erase k).get? key = some v ↔ key ≠ k ∧ r.get? key = some v := by
  rw [get?_erase]
  split
  · next same => simp [same]
  · next other => simp [other]

/-- Change the value of a key, if it has one. -/
def modify (r : Roster κ β) (k : κ) (f : β → β) : Roster κ β :=
  r.mapValues fun key v => if key = k then f v else v

theorem find_map (f : κ → β → β) {k : κ} {es : List (κ × β)} :
    find k (es.map fun e => (e.1, f e.1 e.2)) = (find k es).map (f k) := by
  induction es with
  | nil => rfl
  | cons e es ih =>
    simp only [List.map_cons, find]
    split
    · next h => simp [h]
    · exact ih

/-- Changing a key changes what is found under it and under no other key. -/
theorem get?_modify {r : Roster κ β} {k key : κ} {f : β → β} :
    (r.modify k f).get? key = (r.get? key).map fun v => if key = k then f v else v :=
  find_map fun x v => if x = k then f v else v

/-- Changing a key leaves the keys and their order. -/
theorem keys_modify {r : Roster κ β} {k : κ} {f : β → β} : (r.modify k f).keys = r.keys := by
  simp [keys, modify, mapValues, Function.comp_def]

end Roster

end NetLab
