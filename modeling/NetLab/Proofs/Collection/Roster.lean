import Mathlib.Data.List.Nodup
import Mathlib.Data.List.Perm.Subperm
import NetLab.Collection.Roster

set_option autoImplicit false

/-!
# Rosters, entry by entry

What is found in a roster settles its entries but for their order.  What one write does to the list
of entries: it replaces a value in its place, or adds an entry at the end.  From this the keys and the
values of a roster that was written are read off.
-/

namespace NetLab.Roster

variable {κ β : Type}

theorem ext_entries {r s : Roster κ β} (h : r.entries = s.entries) : r = s := by
  cases r
  cases s
  cases h
  rfl

variable [DecidableEq κ]

@[simp] theorem get?_empty {k : κ} : (empty : Roster κ β).get? k = none := rfl

/-! ## What is found -/

theorem find_isSome_iff {k : κ} {es : List (κ × β)} :
    (find k es).isSome ↔ k ∈ es.map Prod.fst := by
  induction es with
  | nil => simp [find]
  | cons e es ih =>
    by_cases h : e.1 = k
    · simp [find, h]
    · simp [find, h, ih, Ne.symm h]

theorem mem_keys_iff {r : Roster κ β} {k : κ} : k ∈ r.keys ↔ ∃ v, r.get? k = some v := by
  rw [← Option.isSome_iff_exists]
  exact find_isSome_iff.symm

theorem mem_values_iff {r : Roster κ β} {v : β} : v ∈ r.values ↔ ∃ k, r.get? k = some v := by
  constructor
  · intro h
    obtain ⟨⟨k, x⟩, he, rfl⟩ := List.mem_map.1 h
    exact ⟨k, get?_eq_some_iff.2 he⟩
  · rintro ⟨k, h⟩
    exact List.mem_map.2 ⟨(k, v), get?_eq_some_iff.1 h, rfl⟩

theorem contains_iff {r : Roster κ β} {k : κ} : r.contains k = true ↔ ∃ v, r.get? k = some v :=
  Option.isSome_iff_exists

/-- Only the keys say what is contained. -/
theorem contains_congr {r s : Roster κ β} (h : r.keys = s.keys) (k : κ) :
    r.contains k = s.contains k := by
  rw [Bool.eq_iff_iff, contains_iff, contains_iff, ← mem_keys_iff, ← mem_keys_iff, h]

theorem contains_put_iff {r : Roster κ β} {k key : κ} {v : β} :
    (r.put k v).contains key = true ↔ key = k ∨ r.contains key = true := by
  rw [contains_iff, contains_iff, get?_put]
  split
  · next h => exact ⟨fun _ => Or.inl h, fun _ => ⟨v, rfl⟩⟩
  · next h => exact ⟨Or.inr, fun there => there.resolve_left h⟩

/-- Giving a key a value keeps what is there. -/
theorem contains_put {r : Roster κ β} {k key : κ} {v : β} (h : r.contains key = true) :
    (r.put k v).contains key = true :=
  contains_put_iff.2 (Or.inr h)

/-- Rosters in which the same is found differ in the order of their entries at most. -/
theorem perm_entries {r s : Roster κ β} (h : ∀ k, s.get? k = r.get? k) :
    s.entries.Perm r.entries := by
  have nodup : ∀ t : Roster κ β, t.entries.Nodup := fun t => List.Nodup.of_map _ t.nodup
  refine (List.perm_ext_iff_of_nodup (nodup s) (nodup r)).2 fun e => ?_
  rw [← get?_eq_some_iff, ← get?_eq_some_iff, h]

/-- What is found does not depend on the order of the entries. -/
theorem get?_of_perm {r s : Roster κ β} (h : r.entries.Perm s.entries) (k : κ) :
    s.get? k = r.get? k := by
  refine Option.ext fun v => ?_
  rw [get?_eq_some_iff, get?_eq_some_iff, h.mem_iff]

/-- If every value of one kind still stands under its key, as one of another kind, there are no
fewer of these. -/
theorem countP_values_le {r s : Roster κ β} {p q : β → Bool}
    (h : ∀ k v, r.get? k = some v → p v = true → ∃ w, s.get? k = some w ∧ q w = true) :
    r.values.countP p ≤ s.values.countP q := by
  have counted : ∀ (t : Roster κ β) (test : β → Bool),
      t.values.countP test = ((t.entries.filter fun e => test e.2).map Prod.fst).length := by
    intro t test
    rw [values, List.countP_map, List.countP_eq_length_filter, List.length_map]
    rfl
  have nodup : ((r.entries.filter fun e => p e.2).map Prod.fst).Nodup :=
    r.nodup.sublist (List.filter_sublist.map Prod.fst)
  rw [counted, counted]
  refine (List.subperm_of_subset nodup fun k hk => ?_).length_le
  obtain ⟨⟨key, v⟩, hv, rfl⟩ := List.mem_map.1 hk
  obtain ⟨there, passes⟩ := List.mem_filter.1 hv
  obtain ⟨w, hw, passes'⟩ := h key v (get?_eq_some_iff.2 there) passes
  exact List.mem_map.2 ⟨(key, w), List.mem_filter.2 ⟨get?_eq_some_iff.1 hw, passes'⟩, rfl⟩

/-- What is seen of the values is what is seen of the value of each key, in order. -/
theorem map_values {γ : Type} (look : β → γ) (r : Roster κ β) :
    r.values.map look = r.keys.filterMap fun k => (r.get? k).map look := by
  have found : ∀ e ∈ r.entries, ((fun k => (r.get? k).map look) ∘ Prod.fst) e =
      some ((look ∘ Prod.snd) e) := by
    intro e he
    rw [Function.comp_apply, get?_eq_some_iff.2 he, Option.map_some, Function.comp_apply]
  rw [values, keys, List.map_map, List.filterMap_map, List.filterMap_congr found]
  exact (congrFun List.filterMap_eq_map r.entries).symm

/-- Rosters with the same keys of which the same is seen have the same under every key. -/
theorem map_get?_eq {γ : Type} {look : β → γ} {r s : Roster κ β} (keys : s.keys = r.keys)
    (values : s.values.map look = r.values.map look) (k : κ) :
    (s.get? k).map look = (r.get? k).map look := by
  have entries : ∀ {es fs : List (κ × β)}, fs.map Prod.fst = es.map Prod.fst →
      (fs.map Prod.snd).map look = (es.map Prod.snd).map look →
      (find k fs).map look = (find k es).map look := by
    intro es
    induction es with
    | nil =>
      intro fs hkeys _
      obtain rfl : fs = [] := by simpa using hkeys
      rfl
    | cons e es ih =>
      intro fs hkeys hvalues
      cases fs with
      | nil => cases hkeys
      | cons f fs =>
        simp only [List.map_cons, List.cons.injEq] at hkeys hvalues
        simp only [find, hkeys.1]
        split
        · exact congrArg some hvalues.1
        · exact ih hkeys.2 hvalues.2
  exact entries keys values

/-! ## Writing -/

theorem write_of_find_eq_none {k : κ} {v : β} {es : List (κ × β)} (h : find k es = none) :
    write k v es = es ++ [(k, v)] := by
  induction es with
  | nil => rfl
  | cons e es ih =>
    have hk : e.1 ≠ k := by
      intro hk
      simp [find, hk] at h
    rw [find, if_neg hk] at h
    rw [write, if_neg hk, ih h, List.cons_append]

/-- A new key comes last. -/
theorem entries_put_of_none {r : Roster κ β} {k : κ} {v : β} (h : r.get? k = none) :
    (r.put k v).entries = r.entries ++ [(k, v)] :=
  write_of_find_eq_none h

theorem values_put_of_none {r : Roster κ β} {k : κ} {v : β} (h : r.get? k = none) :
    (r.put k v).values = r.values ++ [v] := by
  simp [values, entries_put_of_none h]

theorem keys_put_of_none {r : Roster κ β} {k : κ} {v : β} (h : r.get? k = none) :
    (r.put k v).keys = r.keys ++ [k] := by
  simp [keys, entries_put_of_none h]

/-- A key that was put and is dropped again leaves what there was. -/
theorem erase_put_of_none {r : Roster κ β} {k : κ} {v : β} (h : r.get? k = none) :
    (r.put k v).erase k = r := by
  have others : ∀ e ∈ r.entries, decide (e.1 ≠ k) = true := by
    rintro ⟨key, x⟩ he
    refine decide_eq_true fun (same : key = k) => ?_
    rw [← same, get?_eq_some_iff.2 he] at h
    cases h
  refine ext_entries ?_
  change (r.put k v).entries.filter (fun e => decide (e.1 ≠ k)) = r.entries
  rw [entries_put_of_none h, List.filter_append, List.filter_eq_self.2 others,
    List.filter_cons_of_neg (by simp), List.filter_nil, List.append_nil]

/-- A value that is put a second time is the one that stays. -/
theorem put_put {r : Roster κ β} {k : κ} {v w : β} : (r.put k v).put k w = r.put k w := by
  apply ext_entries
  change write k w (write k v r.entries) = write k w r.entries
  induction r.entries with
  | nil => simp [write]
  | cons e es ih =>
    by_cases h : e.1 = k
    · simp [write, h]
    · simp [write, h, ih]

/-- Only what a test makes of the entries that are there shows. -/
theorem filter_congr {r : Roster κ β} {p q : κ → β → Bool}
    (h : ∀ k v, r.get? k = some v → p k v = q k v) : r.filter p = r.filter q := by
  refine ext_entries (List.filter_congr fun e he => ?_)
  exact h e.1 e.2 (get?_eq_some_iff.2 he)

omit [DecidableEq κ] in
theorem filter_filter {r : Roster κ β} {p q : κ → β → Bool} :
    (r.filter p).filter q = r.filter fun k v => q k v && p k v :=
  ext_entries (List.filter_filter ..)

/-- A test that every entry passes leaves the roster. -/
theorem filter_of_forall {r : Roster κ β} {p : κ → β → Bool}
    (h : ∀ k v, r.get? k = some v → p k v = true) : r.filter p = r := by
  refine ext_entries (List.filter_eq_self.2 fun e he => ?_)
  exact h e.1 e.2 (get?_eq_some_iff.2 he)

/-- Only what a change makes of the value that is there shows. -/
theorem modify_congr {r : Roster κ β} {k : κ} {v : β} {f g : β → β} (h : r.get? k = some v)
    (hfg : f v = g v) : r.modify k f = r.modify k g := by
  refine ext_entries (List.map_congr_left fun e he => ?_)
  dsimp only
  split
  · next hk =>
    have hv : r.get? k = some e.2 := get?_eq_some_iff.2 (by rw [← hk]; exact he)
    obtain rfl := Option.some.inj (h.symm.trans hv)
    rw [hfg]
  · rfl

/-- A change that leaves a value as it is leaves the roster. -/
theorem modify_of_eq {r : Roster κ β} {k : κ} {v : β} {f : β → β} (h : r.get? k = some v)
    (hf : f v = v) : r.modify k f = r := by
  rw [modify_congr h (show f v = id v from hf)]
  refine ext_entries ((List.map_congr_left fun e _ => ?_).trans (List.map_id _))
  simp

theorem modify_modify {r : Roster κ β} {k : κ} {f g : β → β} :
    (r.modify k f).modify k g = r.modify k (g ∘ f) := by
  refine ext_entries ((List.map_map ..).trans (List.map_congr_left fun e _ => ?_))
  dsimp only [Function.comp_apply]
  split
  · rfl
  · rfl

end NetLab.Roster
