import Mathlib.Data.List.Nodup
import NetLab.Collection.Index
import NetLab.Document.Value

set_option autoImplicit false

/-!
# Indexes from lists of entries

An index that is made from entries with different keys holds exactly these entries, so making an
index from the entries of an index gives it back.  A record of a document is such an index: its
fields are looked up by name.
-/

namespace NetLab.Index

variable {κ β : Type}

theorem nodup_keys [LT κ] [LE κ] [Std.LawfulOrderLT κ] (t : Index κ β) :
    (t.entries.map Prod.fst).Nodup := by
  rw [List.nodup_iff_pairwise_ne, List.pairwise_map]
  refine t.sorted.imp fun {a b} hab heq => ?_
  rw [heq] at hab
  exact Std.lt_irrefl hab

variable [DecidableEq κ]

theorem find_append {k : κ} {es fs : List (κ × β)} :
    find k (es ++ fs) = (find k es).or (find k fs) := by
  induction es with
  | nil => rfl
  | cons e es ih =>
    by_cases h : e.1 = k
    · simp [find, h]
    · simp [find, h, ih]

/-- Among entries with different keys, those that stand under a key are those that are found. -/
theorem find_eq_some_iff_of_nodup {k : κ} {v : β} {es : List (κ × β)}
    (h : (es.map Prod.fst).Nodup) : find k es = some v ↔ (k, v) ∈ es := by
  induction es with
  | nil => simp [find]
  | cons e es ih =>
    obtain ⟨key, x⟩ := e
    rw [List.map_cons, List.nodup_cons] at h
    by_cases hk : key = k
    · subst hk
      have hnot : ∀ y, (key, y) ∉ es := fun y hy => h.1 (List.mem_map.2 ⟨(key, y), hy, rfl⟩)
      simp [find, hnot v, eq_comm]
    · simp [find, hk, ih h.2, Ne.symm hk]

variable [LT κ]

@[simp] theorem get?_empty {k : κ} : (empty : Index κ β).get? k = none := rfl

theorem contains_iff {t : Index κ β} {k : κ} : t.contains k = true ↔ ∃ v, t.get? k = some v :=
  Option.isSome_iff_exists

variable [LE κ] [DecidableLT κ] [Std.LawfulOrderLT κ] [Std.IsLinearOrder κ]

/-- A key that has a value keeps it. -/
theorem putNew_of_get? {t : Index κ β} {k : κ} {v w : β} (h : t.get? k = some w) :
    t.putNew k v = t := by
  rw [putNew, if_pos (contains_iff.2 ⟨w, h⟩)]

/-! ## From entries -/

theorem get?_foldl_put {es : List (κ × β)} {t : Index κ β} {k : κ} :
    (es.foldl (fun t e => t.put e.1 e.2) t).get? k = (find k es.reverse).or (t.get? k) := by
  induction es generalizing t with
  | nil => rfl
  | cons e es ih =>
    rw [List.foldl_cons, ih, get?_put, List.reverse_cons, find_append]
    by_cases h : k = e.1
    · cases find k es.reverse <;> simp [h, find]
    · cases find k es.reverse <;> simp [h, find, Ne.symm h]

/-- An index holds nothing but what was put into it. -/
theorem mem_of_mem_ofList {es : List (κ × β)} {e : κ × β} (h : e ∈ (ofList es).entries) :
    e ∈ es := by
  have step : ∀ t : Index κ β, e ∈ (es.foldl (fun t e => t.put e.1 e.2) t).entries →
      e ∈ es ∨ e ∈ t.entries := by
    clear h
    induction es with
    | nil => exact fun t ht => Or.inr ht
    | cons f es ih =>
      intro t ht
      rcases ih (t.put f.1 f.2) ht with he | he
      · exact Or.inl (List.mem_cons_of_mem _ he)
      · rcases mem_write he with rfl | he
        · exact Or.inl (List.mem_cons_self ..)
        · exact Or.inr he
  rcases step empty h with he | he
  · exact he
  · cases he

/-- Of entries with one key the last counts. -/
theorem get?_ofList {es : List (κ × β)} {k : κ} : (ofList es).get? k = find k es.reverse := by
  rw [ofList, get?_foldl_put]
  cases find k es.reverse <;> rfl

theorem get?_ofList_of_nodup {es : List (κ × β)} (h : (es.map Prod.fst).Nodup) {k : κ} {v : β} :
    (ofList es).get? k = some v ↔ (k, v) ∈ es := by
  have hrev : (es.reverse.map Prod.fst).Nodup := by
    rw [List.map_reverse]
    exact (List.reverse_perm _).nodup_iff.2 h
  rw [get?_ofList, find_eq_some_iff_of_nodup hrev, List.mem_reverse]

/-- The entries of an index make the index. -/
theorem ofList_entries (t : Index κ β) : ofList t.entries = t := by
  apply ext_get?
  intro k
  apply Option.ext
  intro v
  rw [get?_ofList_of_nodup t.nodup_keys, get?_eq_some_iff]

/-- Two lists with the same entries make the same index, if no key stands twice. -/
theorem ofList_congr {es fs : List (κ × β)} (he : (es.map Prod.fst).Nodup)
    (hf : (fs.map Prod.fst).Nodup) (h : ∀ e, e ∈ es ↔ e ∈ fs) : ofList es = ofList fs := by
  apply ext_get?
  intro k
  apply Option.ext
  intro v
  rw [get?_ofList_of_nodup he, get?_ofList_of_nodup hf, h]

/-- The entries of the index of a list are those of the list, if no key stands twice. -/
theorem mem_entries_ofList {es : List (κ × β)} (h : (es.map Prod.fst).Nodup) {e : κ × β} :
    e ∈ (ofList es).entries ↔ e ∈ es := by
  rw [← get?_ofList_of_nodup h, get?_eq_some_iff]

theorem perm_entries_ofList {es : List (κ × β)} (h : (es.map Prod.fst).Nodup) :
    (ofList es).entries.Perm es := by
  have hentries : (ofList es).entries.Nodup := List.Nodup.of_map _ (ofList es).nodup_keys
  exact (List.perm_ext_iff_of_nodup hentries (List.Nodup.of_map _ h)).2
    fun _ => mem_entries_ofList h

end NetLab.Index

namespace NetLab.Value

/-- Looking a field up by its name is looking a key up. -/
theorem field?_eq_find (name : String) (fs : List (String × Value)) :
    field? name fs = Index.find name fs := by
  induction fs with
  | nil => rfl
  | cons f fs ih =>
    by_cases h : f.1 = name
    · simp [field?, Index.find, h]
    · have hb : (f.1 == name) = false := by simpa using h
      rw [Index.find, if_neg h, ← ih]
      simp [field?, hb]

/-- A field of a record whose fields have different names. -/
theorem field?_record {es : List (String × Value)} (h : (es.map Prod.fst).Nodup) (name : String) :
    field? name (Index.ofList es).entries = Index.find name es := by
  rw [field?_eq_find]
  apply Option.ext
  intro v
  rw [Index.find_eq_some_iff_of_nodup h]
  exact Index.get?_ofList_of_nodup h

end NetLab.Value
