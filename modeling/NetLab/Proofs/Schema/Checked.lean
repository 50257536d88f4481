import Mathlib.Data.List.Forall2
import NetLab.Proofs.Collection.Index
import NetLab.Schema.Checked

set_option autoImplicit false

/-!
# When a strict reading succeeds

A strict reading succeeds exactly if the reading of each of its parts does, and the typed value is
made of those of the parts.  There is one statement for each way in which readers are put together,
read from left to right where a document was accepted, and from right to left where one is shown to
be.
-/

namespace NetLab.Schema

variable {α β : Type}

namespace Checked

@[simp] theorem complain_ne_ok {c : Complaint} {a : α} : (complain c : Checked α) ≠ .ok a := by
  rintro ⟨⟩

theorem map_eq_ok {f : α → β} {x : Checked α} {b : β} :
    x.map f = .ok b ↔ ∃ a, x = .ok a ∧ f a = b := by
  cases x <;> simp [map]

theorem and_eq_ok {x : Checked (α → β)} {y : Checked α} {b : β} :
    x.and y = .ok b ↔ ∃ f a, x = .ok f ∧ y = .ok a ∧ f a = b := by
  cases x <;> cases y <;> simp [Checked.and]

theorem andThen_eq_ok {x : Checked α} {f : α → Checked β} {b : β} :
    x.andThen f = .ok b ↔ ∃ a, x = .ok a ∧ f a = .ok b := by
  cases x <;> simp [andThen]

@[simp] theorem under_eq_ok {key : String} {x : Checked α} {a : α} :
    x.under key = .ok a ↔ x = .ok a := by
  cases x <;> simp [under]

theorem all_eq_ok {xs : List (Checked α)} {as : List α} :
    all xs = .ok as ↔ List.Forall₂ (fun x a => x = .ok a) xs as := by
  induction xs generalizing as with
  | nil => simp [all, List.forall₂_nil_left_iff, eq_comm]
  | cons x xs ih =>
    rw [all, and_eq_ok, List.forall₂_cons_left_iff]
    constructor
    · rintro ⟨f, bs, hf, hbs, rfl⟩
      obtain ⟨a, ha, rfl⟩ := map_eq_ok.1 hf
      exact ⟨a, bs, ha, ih.1 hbs, rfl⟩
    · rintro ⟨a, bs, ha, hbs, rfl⟩
      exact ⟨List.cons a, bs, map_eq_ok.2 ⟨a, ha, rfl⟩, ih.2 hbs, rfl⟩

end Checked

open Checked

variable {r : Reader α} {fs : List (String × Value)} {name : String} {a d : α} {v : Value}

/-! ## Scalars -/

theorem text_eq_ok {s : String} : text v = .ok s ↔ v = .text s := by
  cases v <;> simp [text]

theorem nonemptyText_eq_ok {s : String} : nonemptyText v = .ok s ↔ v = .text s ∧ s ≠ "" := by
  rw [nonemptyText, andThen_eq_ok]
  constructor
  · rintro ⟨x, hx, h⟩
    split at h
    · cases h
    · next named =>
      cases h
      exact ⟨text_eq_ok.1 hx, named⟩
  · rintro ⟨rfl, named⟩
    exact ⟨s, rfl, if_neg named⟩

theorem integerWithin_eq_ok {least greatest n : Int} (h : integerWithin least greatest v = .ok n) :
    least ≤ n ∧ n ≤ greatest := by
  obtain ⟨m, _, h⟩ := andThen_eq_ok.1 h
  split at h
  · cases h
  · split at h
    · cases h
    · cases h
      omega

theorem integerWithin_int {least greatest n : Int} (low : least ≤ n) (high : n ≤ greatest) :
    integerWithin least greatest (.int n) = .ok n := by
  rw [integerWithin, integer, andThen, if_neg (by omega), if_neg (by omega)]

theorem oneOf_eq_ok {choices : String} {pick : String → Option α} :
    oneOf choices pick v = .ok a ↔ ∃ s, v = .text s ∧ pick s = some a := by
  cases v with
  | text s => cases h : pick s <;> simp [oneOf, h]
  | _ => simp [oneOf]

theorem optional_text_ofText? (s : Option String) : optional text (.ofText? s) = .ok s := by
  cases s <;> rfl

/-! ## Fields -/

theorem required_eq_ok : required name r fs = .ok a ↔
    ∃ v, Value.field? name fs = some v ∧ r v = .ok a := by
  rw [required]
  cases Value.field? name fs <;> simp

/-- A field that has a default was left out, or its value was read. -/
theorem defaulted_eq_ok (h : defaulted name d r fs = .ok a) :
    a = d ∨ ∃ v, r v = .ok a := by
  rw [defaulted] at h
  split at h
  · next v _ => exact Or.inr ⟨v, under_eq_ok.1 h⟩
  · cases h
    exact Or.inl rfl

theorem defaulted_of_field? (hv : Value.field? name fs = some v) (ha : r v = .ok a) :
    defaulted name d r fs = .ok a := by
  rw [defaulted, hv]
  exact under_eq_ok.2 ha

/-! ## Records, lists and tables -/

/-- What stands in the second of two lists that are related stands there for something in the
first. -/
theorem exists_of_forall₂ {α β : Type} {R : α → β → Prop} {as : List α} {bs : List β}
    (h : List.Forall₂ R as bs) {b : β} (hb : b ∈ bs) : ∃ a ∈ as, R a b := by
  induction h with
  | nil => cases hb
  | @cons x y as bs hxy _ ih =>
    rcases List.mem_cons.1 hb with rfl | hb
    · exact ⟨x, List.mem_cons_self .., hxy⟩
    · obtain ⟨a, ha, hab⟩ := ih hb
      exact ⟨a, List.mem_cons_of_mem _ ha, hab⟩

/-- If everything in a list is related to something, the list is related to a list. -/
theorem exists_forall₂ {α β : Type} {R : α → β → Prop} {as : List α}
    (h : ∀ a ∈ as, ∃ b, R a b) : ∃ bs, List.Forall₂ R as bs := by
  induction as with
  | nil => exact ⟨[], .nil⟩
  | cons a as ih =>
    obtain ⟨b, hb⟩ := h a (List.mem_cons_self ..)
    obtain ⟨bs, hbs⟩ := ih fun x hx => h x (List.mem_cons_of_mem _ hx)
    exact ⟨b :: bs, .cons hb hbs⟩

theorem noOthers_eq_ok {names : List String} {fs : List (String × Value)}
    (h : ∀ f ∈ fs, f.1 ∈ names) : noOthers names fs = .ok () := by
  have none : (fs.filterMap fun f => if names.contains f.1 then none
      else some ((complain .unexpected : Checked Unit).under f.1)) = [] := by
    rw [List.filterMap_eq_nil_iff]
    intro f hf
    rw [if_pos (by simpa using h f hf)]
  rw [noOthers, none]
  rfl

theorem model_eq_ok {type : String} {names : List String}
    {fields : List (String × Value) → Checked α} (h : model type names fields v = .ok a) :
    ∃ fs, v = .object fs ∧ fields fs = .ok a := by
  cases v with
  | object fs =>
    obtain ⟨f, u, hf, _, rfl⟩ := and_eq_ok.1 h
    obtain ⟨a, ha, rfl⟩ := map_eq_ok.1 hf
    exact ⟨fs, rfl, ha⟩
  | _ => cases h

/-- A record of the fields that a type names is accepted if its fields are, however they are
ordered. -/
theorem model_record {type : String} {names : List String}
    {fields : List (String × Value) → Checked α} {es : List (String × Value)}
    (different : (es.map Prod.fst).Nodup) (known : ∀ e ∈ es, e.1 ∈ names)
    (ha : ∀ fs, (∀ name, Value.field? name fs = Index.find name es) → fields fs = .ok a) :
    model type names fields (.object (Index.ofList es).entries) = .ok a := by
  have others : noOthers names (Index.ofList es).entries = .ok () :=
    noOthers_eq_ok fun f hf => known f ((Index.mem_entries_ofList different).1 hf)
  rw [model, ha _ (Value.field?_record different), others]
  rfl

/-- The values of a list are read one by one. -/
theorem listOf_eq_ok {vs : List Value} {as : List α} :
    listOf r (.list vs) = .ok as ↔ List.Forall₂ (fun v a => r v = .ok a) vs as := by
  have places : vs = vs.zipIdx.map Prod.fst := (List.zipIdx_map_fst 0 vs).symm
  rw [listOf, all_eq_ok, List.forall₂_map_left_iff]
  simp only [under_eq_ok]
  conv_rhs => rw [places, List.forall₂_map_left_iff]

theorem tableOf_eq_ok {as : List (String × α)} :
    tableOf r (.object fs) = .ok as ↔
      List.Forall₂ (fun f a => f.1 = a.1 ∧ r f.2 = .ok a.2) fs as := by
  rw [tableOf, all_eq_ok, List.forall₂_map_left_iff]
  have entry : ∀ (f : String × Value) (a : String × α),
      ((r f.2).map fun a => (f.1, a)).under f.1 = .ok a ↔ f.1 = a.1 ∧ r f.2 = .ok a.2 := by
    intro f a
    rw [under_eq_ok, map_eq_ok]
    constructor
    · rintro ⟨b, hb, rfl⟩
      exact ⟨rfl, hb⟩
    · rintro ⟨hk, hb⟩
      exact ⟨a.2, hb, Prod.ext hk rfl⟩
  simp only [entry]

/-! ## Reading what was written -/

/-- Two lists look the same where what is related does. -/
theorem map_eq_map_of_forall₂ {γ : Type} {R : α → β → Prop} {f : α → γ} {g : β → γ} {as : List α}
    {bs : List β} (h : List.Forall₂ R as bs) (hR : ∀ a b, R a b → g b = f a) :
    bs.map g = as.map f := by
  induction h with
  | nil => rfl
  | cons hab _ ih => rw [List.map_cons, List.map_cons, hR _ _ hab, ih]

/-- If every value of a table is accepted and written back as it was, so is the table. -/
theorem exists_tableOf {write : α → Value}
    (h : ∀ f ∈ fs, ∃ a, r f.2 = .ok a ∧ write a = f.2) :
    ∃ as, tableOf r (.object fs) = .ok as ∧ as.map (fun a => (a.1, write a.2)) = fs := by
  have entry : ∀ f ∈ fs, ∃ a : String × α, (f.1 = a.1 ∧ r f.2 = .ok a.2) ∧ write a.2 = f.2 := by
    intro f hf
    obtain ⟨a, ha, back⟩ := h f hf
    exact ⟨(f.1, a), ⟨rfl, ha⟩, back⟩
  obtain ⟨as, has⟩ := exists_forall₂ entry
  refine ⟨as, tableOf_eq_ok.2 (has.imp fun _ _ h => h.1), ?_⟩
  rw [map_eq_map_of_forall₂ has fun f a h => Prod.ext h.1.1.symm h.2]
  exact List.map_id fs

end NetLab.Schema
