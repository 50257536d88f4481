set_option autoImplicit false

/-!
# Indexes

An index keeps one value for each key, in the order of the keys.  Two indexes with the same
values are the same index, however they came about.
-/

namespace NetLab

/-- Entries in strictly increasing order of their keys. -/
structure Index (κ β : Type) [LT κ] where
  entries : List (κ × β)
  sorted : entries.Pairwise fun a b => a.1 < b.1
  deriving DecidableEq, Repr

namespace Index

variable {κ β : Type} [LT κ]

/-- The index without entries. -/
def empty : Index κ β := ⟨[], List.Pairwise.nil⟩

instance : Inhabited (Index κ β) := ⟨empty⟩

/-- The keys, in increasing order. -/
def keys (t : Index κ β) : List κ := t.entries.map Prod.fst

/-- The values, in the order of their keys. -/
def values (t : Index κ β) : List β := t.entries.map Prod.snd

/-- The entries whose key and value pass a test. -/
def filter (p : κ → β → Bool) (t : Index κ β) : Index κ β :=
  ⟨t.entries.filter fun e => p e.1 e.2, t.sorted.sublist List.filter_sublist⟩

/-- Change values; the keys stay. -/
def mapValues (f : κ → β → β) (t : Index κ β) : Index κ β :=
  ⟨t.entries.map fun e => (e.1, f e.1 e.2), List.pairwise_map.2 t.sorted⟩

variable [DecidableEq κ]

/-- The value of a key in a list of entries. -/
def find (k : κ) : List (κ × β) → Option β
  | [] => none
  | e :: es => if e.1 = k then some e.2 else find k es

/-- The value of a key. -/
def get? (t : Index κ β) (k : κ) : Option β := find k t.entries

/-- The key has a value. -/
def contains (t : Index κ β) (k : κ) : Bool := (t.get? k).isSome

/-- Drop a key. -/
def erase (t : Index κ β) (k : κ) : Index κ β := t.filter fun key _ => key ≠ k

/-- Change the value of a key, if it has one. -/
def modify (t : Index κ β) (k : κ) (f : β → β) : Index κ β :=
  t.mapValues fun key v => if key = k then f v else v

section

variable [LE κ] [Std.LawfulOrderLT κ]

theorem find_eq_some_iff {k : κ} {v : β} {es : List (κ × β)}
    (h : es.Pairwise fun a b => a.1 < b.1) : find k es = some v ↔ (k, v) ∈ es := by
  induction es with
  | nil => simp [find]
  | cons e es ih =>
    obtain ⟨key, x⟩ := e
    have h' := List.pairwise_cons.1 h
    by_cases hk : key = k
    · subst hk
      have hnot : ∀ y, (key, y) ∉ es := fun y hy => Std.lt_irrefl (h'.1 (key, y) hy)
      simp [find, hnot v, eq_comm]
    · simp [find, hk, ih h'.2, Ne.symm hk]

/-- Looking a key up and going through the entries say the same. -/
theorem get?_eq_some_iff {t : Index κ β} {k : κ} {v : β} :
    t.get? k = some v ↔ (k, v) ∈ t.entries :=
  find_eq_some_iff t.sorted

/-- A test on entries is a test on what is found. -/
theorem get?_filter {p : κ → β → Bool} {t : Index κ β} {k : κ} :
    (t.filter p).get? k = (t.get? k).filter (p k) := by
  apply Option.ext
  intro v
  rw [get?_eq_some_iff, Option.filter_eq_some_iff, get?_eq_some_iff]
  simp [filter]

/-- A key that was dropped is not found, and every other key is found as before. -/
theorem get?_erase {t : Index κ β} {k key : κ} :
    (t.erase k).get? key = if key = k then none else t.get? key := by
  rw [erase, get?_filter]
  by_cases h : key = k <;> cases t.get? key <;> simp [h, Option.filter]

theorem get?_erase_eq_some_iff {t : Index κ β} {k key : κ} {v : β} :
    (t.erase k).get? key = some v ↔ key ≠ k ∧ t.get? key = some v := by
  rw [get?_erase]
  split
  · next same => simp [same]
  · next other => simp [other]

theorem eq_of_find_eq {es fs : List (κ × β)} (he : es.Pairwise fun a b => a.1 < b.1)
    (hf : fs.Pairwise fun a b => a.1 < b.1) (h : ∀ k, find k es = find k fs) : es = fs := by
  induction es generalizing fs with
  | nil =>
    cases fs with
    | nil => rfl
    | cons f fs => simpa [find] using h f.1
  | cons e es ih =>
    cases fs with
    | nil => simpa [find] using h e.1
    | cons f fs =>
      have he' := List.pairwise_cons.1 he
      have hf' := List.pairwise_cons.1 hf
      have same : ∀ x, x ∈ e :: es ↔ x ∈ f :: fs := fun x => by
        rw [← find_eq_some_iff he, ← find_eq_some_iff hf, h x.1]
      -- each head is in the other list, and neither can come after the other
      have heads : e = f := by
        rcases List.mem_cons.1 ((same e).1 (List.mem_cons_self ..)) with hef | hef
        · exact hef
        rcases List.mem_cons.1 ((same f).2 (List.mem_cons_self ..)) with hfe | hfe
        · exact hfe.symm
        · exact absurd (Std.le_of_lt (hf'.1 e hef)) (Std.lt_iff_le_and_not_ge.1 (he'.1 f hfe)).2
      subst heads
      rw [ih he'.2 hf'.2]
      intro k
      apply Option.ext
      intro v
      rw [find_eq_some_iff he'.2, find_eq_some_iff hf'.2]
      have apart : ∀ {gs : List (κ × β)}, (∀ g ∈ gs, e.1 < g.1) → e ∉ gs :=
        fun hg hm => Std.lt_irrefl (hg e hm)
      by_cases hx : (k, v) = e
      · subst hx
        simp [apart he'.1, apart hf'.1]
      · simpa [hx] using same (k, v)

/-- Two indexes in which the same is found under every key are the same. -/
theorem ext_get? {t u : Index κ β} (h : ∀ k, t.get? k = u.get? k) : t = u := by
  cases t with
  | mk es he =>
    cases u with
    | mk fs hf =>
      cases eq_of_find_eq he hf h
      rfl

end

variable [DecidableLT κ]

/-- Set the value of a key in a sorted list of entries. -/
def write (k : κ) (v : β) : List (κ × β) → List (κ × β)
  | [] => [(k, v)]
  | e :: es =>
    if e.1 = k then (k, v) :: es
    else if k < e.1 then (k, v) :: e :: es
    else e :: write k v es

theorem mem_write {x : κ × β} {k : κ} {v : β} {es : List (κ × β)} (h : x ∈ write k v es) :
    x = (k, v) ∨ x ∈ es := by
  induction es with
  | nil => simpa [write] using h
  | cons e es ih =>
    by_cases hk : e.1 = k
    · simp only [write, hk, if_true, List.mem_cons] at h
      exact h.imp_right (List.mem_cons_of_mem _)
    · by_cases hl : k < e.1
      · simpa [write, hk, hl] using h
      · simp only [write, hk, hl, if_false, List.mem_cons] at h
        rcases h with rfl | h
        · exact Or.inr (List.mem_cons_self ..)
        · exact (ih h).imp_right (List.mem_cons_of_mem _)

theorem find_write {k key : κ} {v : β} {es : List (κ × β)} :
    find key (write k v es) = if key = k then some v else find key es := by
  induction es with
  | nil => simp [write, find, eq_comm]
  | cons e es ih =>
    by_cases hk : e.1 = k
    · subst hk
      simp only [write, find, if_true]
      split
      · next h => simp [h]
      · next h => rw [if_neg (Ne.symm h)]
    · by_cases hl : k < e.1
      · simp [write, find, hk, hl, eq_comm]
      · by_cases hkey : e.1 = key
        · subst hkey
          simp [write, find, hk, hl]
        · simp [write, find, hk, hl, hkey, ih]

variable [LE κ] [Std.LawfulOrderLT κ] [Std.IsLinearOrder κ]

theorem sorted_write {k : κ} {v : β} {es : List (κ × β)}
    (h : es.Pairwise fun a b => a.1 < b.1) :
    (write k v es).Pairwise fun a b => a.1 < b.1 := by
  induction es with
  | nil => simp [write]
  | cons e es ih =>
    have h' := List.pairwise_cons.1 h
    by_cases hk : e.1 = k
    · simp only [write, hk, if_true]
      exact List.pairwise_cons.2 ⟨fun x hx => hk ▸ h'.1 x hx, h'.2⟩
    · by_cases hl : k < e.1
      · simp only [write, hk, hl, if_false, if_true]
        refine List.pairwise_cons.2 ⟨fun x hx => ?_, h⟩
        rcases List.mem_cons.1 hx with rfl | hx
        · exact hl
        · exact Std.lt_trans hl (h'.1 x hx)
      · simp only [write, hk, hl, if_false]
        refine List.pairwise_cons.2 ⟨fun x hx => ?_, ih h'.2⟩
        rcases mem_write hx with rfl | hx
        · exact Std.lt_of_le_of_ne (Std.not_lt.1 hl) hk
        · exact h'.1 x hx

/-- Set the value of a key. -/
def put (t : Index κ β) (k : κ) (v : β) : Index κ β := ⟨write k v t.entries, sorted_write t.sorted⟩

/-- Setting a key changes what is found under it and under no other key. -/
theorem get?_put {t : Index κ β} {k key : κ} {v : β} :
    (t.put k v).get? key = if key = k then some v else t.get? key :=
  find_write

/-- What holds of all that is found and of a new entry holds of all that is found with it. -/
theorem forall_put {t : Index κ β} {P : κ → β → Prop} {k : κ} {v : β}
    (h : ∀ key x, t.get? key = some x → P key x) (hv : P k v) :
    ∀ key x, (t.put k v).get? key = some x → P key x := by
  intro key x hx
  rw [get?_put] at hx
  split at hx
  · next same =>
    rw [same, ← Option.some.inj hx]
    exact hv
  · exact h key x hx

/-- Give a key a value unless it has one. -/
def putNew (t : Index κ β) (k : κ) (v : β) : Index κ β := if t.contains k then t else t.put k v

/-- The index of a list of entries; a later entry wins over an earlier one with its key. -/
def ofList (es : List (κ × β)) : Index κ β := es.foldl (fun t e => t.put e.1 e.2) empty

end Index

end NetLab
