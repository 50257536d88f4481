import NetLab.Fault

set_option autoImplicit false

/-!
# Operations that may fail

How a chain of operations comes to its result, that it comes to one (`Succeeds`), that two chains
end alike (`Matching`), and which faults a chain can end in.  Four faults say that a command was
reached without what it is about: an interface, a VLAN or a line (`Fault.isLost`).  An operation is
tame if it never ends in one of these; chains of tame operations are tame.
-/

namespace NetLab

variable {α β : Type}

/-! ## Chains -/

theorem bind_eq_ok_iff {x : Except Fault α} {f : α → Except Fault β} {b : β} :
    x >>= f = .ok b ↔ ∃ a, x = .ok a ∧ f a = .ok b := by
  cases x <;> simp [bind, Except.bind]

theorem bind_eq_error_iff {x : Except Fault α} {f : α → Except Fault β} {e : Fault} :
    x >>= f = .error e ↔ x = .error e ∨ ∃ a, x = .ok a ∧ f a = .error e := by
  cases x <;> simp [bind, Except.bind]

@[simp] theorem pure_eq_ok_iff {a b : α} : (pure a : Except Fault α) = .ok b ↔ a = b := by
  simp [pure, Except.pure]

@[simp] theorem pure_ne_error {a : α} {e : Fault} : (pure a : Except Fault α) ≠ .error e := by
  simp [pure, Except.pure]

theorem map_eq_ok_iff {x : Except Fault α} {f : α → β} {b : β} :
    x.map f = .ok b ↔ ∃ a, x = .ok a ∧ f a = b := by
  cases x <;> simp [Except.map]

theorem map_bind {γ : Type} {x : Except Fault α} {f : α → Except Fault β} {g : β → γ} :
    (x >>= f).map g = x >>= fun a => (f a).map g := by
  cases x <;> rfl

theorem isOk_iff {x : Except Fault α} : x.isOk = true ↔ ∃ a, x = .ok a := by
  cases x <;> simp [Except.isOk, Except.toBool]

/-! ## Operations that succeed -/

/-- The operation gives a result. -/
def Succeeds (x : Except Fault α) : Prop := ∃ a, x = .ok a

theorem succeeds_ok (a : α) : Succeeds (.ok a : Except Fault α) := ⟨a, rfl⟩

theorem succeeds_pure (a : α) : Succeeds (pure a : Except Fault α) := ⟨a, rfl⟩

theorem succeeds_bind {x : Except Fault α} {f : α → Except Fault β} (hx : Succeeds x)
    (hf : ∀ a, x = .ok a → Succeeds (f a)) : Succeeds (x >>= f) := by
  obtain ⟨a, ha⟩ := hx
  obtain ⟨b, hb⟩ := hf a ha
  exact ⟨b, bind_eq_ok_iff.2 ⟨a, ha, hb⟩⟩

theorem succeeds_map {x : Except Fault α} {f : α → β} (hx : Succeeds x) : Succeeds (x.map f) := by
  obtain ⟨a, ha⟩ := hx
  exact ⟨f a, map_eq_ok_iff.2 ⟨a, ha, rfl⟩⟩

theorem succeeds_mapM {f : α → Except Fault β} {as : List α} (hf : ∀ a ∈ as, Succeeds (f a)) :
    Succeeds (as.mapM f) := by
  induction as with
  | nil => exact succeeds_pure []
  | cons a as ih =>
    rw [List.mapM_cons]
    refine succeeds_bind (hf a (List.mem_cons_self ..)) fun b _ => ?_
    refine succeeds_bind (ih fun x hx => hf x (List.mem_cons_of_mem a hx)) fun bs _ => ?_
    exact succeeds_pure _

/-- Where no step can end in any other fault than one, and some step does, the list ends in it. -/
theorem mapM_eq_error {f : α → Except Fault β} {as : List α} {e : Fault}
    (only : ∀ a ∈ as, Succeeds (f a) ∨ f a = .error e) (fails : ∃ a ∈ as, f a = .error e) :
    as.mapM f = .error e := by
  induction as with
  | nil =>
    obtain ⟨a, ha, -⟩ := fails
    cases ha
  | cons a as ih =>
    obtain ⟨first, only⟩ := List.forall_mem_cons.1 only
    rw [List.mapM_cons]
    rcases first with ⟨b, hb⟩ | hfirst
    · have later : ∃ a ∈ as, f a = .error e := by
        obtain ⟨x, hx, hfx⟩ := fails
        rcases List.mem_cons.1 hx with rfl | hx
        · rw [hb] at hfx
          cases hfx
        · exact ⟨x, hx, hfx⟩
      rw [hb, ih only later]
      rfl
    · rw [hfirst]
      rfl

/-- Where every step is known to give a result, so is the list of the results. -/
theorem mapM_eq_ok_of_forall {f : α → Except Fault β} {g : α → β} {as : List α}
    (h : ∀ a ∈ as, f a = .ok (g a)) : as.mapM f = .ok (as.map g) := by
  induction as with
  | nil => rfl
  | cons a as ih =>
    rw [List.mapM_cons, h a (List.mem_cons_self ..), ih fun x hx => h x (List.mem_cons_of_mem a hx)]
    rfl

/-! ## Operations that end alike -/

/-- Two operations end alike: in results that are related, or in one and the same fault. -/
inductive Matching {ε : Type} (R : α → β → Prop) : Except ε α → Except ε β → Prop where
  | ok {a : α} {b : β} (related : R a b) : Matching R (.ok a) (.ok b)
  | error (f : ε) : Matching R (.error f) (.error f)

namespace Matching

variable {ε γ δ : Type} {R : α → β → Prop} {S : γ → δ → Prop} {x : Except ε α} {y : Except ε β}

theorem of_eq {x y : Except ε α} (h : x = y) : Matching Eq x y := by
  subst h
  cases x with
  | ok a => exact .ok rfl
  | error f => exact .error f

theorem bind {f : α → Except ε γ} {g : β → Except ε δ} (h : Matching R x y)
    (hfg : ∀ a b, R a b → Matching S (f a) (g b)) : Matching S (x >>= f) (y >>= g) := by
  cases h with
  | ok related => exact hfg _ _ related
  | error f => exact .error f

theorem map {f : α → γ} {g : β → δ} (h : Matching R x y) (hfg : ∀ a b, R a b → S (f a) (g b)) :
    Matching S (x.map f) (y.map g) := by
  cases h with
  | ok related => exact .ok (hfg _ _ related)
  | error f => exact .error f

/-- Operations that are the same up to what is seen of their results end alike. -/
theorem of_map_eq {f : α → β} {x y : Except Fault α} (h : y.map f = x.map f) :
    Matching (fun a b => f b = f a) x y := by
  cases x with
  | error g =>
    cases y with
    | error g' =>
      obtain rfl : g' = g := Except.error.inj h
      exact .error g'
    | ok b => cases h
  | ok a =>
    cases y with
    | error g => cases h
    | ok b => exact .ok (Except.ok.inj h)

end Matching

/-! ## Contents that are related -/

section

variable {R : α → α → Prop}

theorem rel_refl (h : ∀ a, R a a) (o : Option α) : Option.Rel R o o := by
  cases o with
  | none => exact .none
  | some a => exact .some (h a)

theorem rel_trans (h : ∀ {a b c}, R a b → R b c → R a c) {x y z : Option α}
    (hxy : Option.Rel R x y) (hyz : Option.Rel R y z) : Option.Rel R x z := by
  cases hxy with
  | none =>
    cases hyz with
    | none => exact .none
  | some related =>
    cases hyz with
    | some next => exact .some (h related next)

end

theorem rel_of_map_eq {f : α → β} {x y : Option α} (h : y.map f = x.map f) :
    Option.Rel (fun a b => f b = f a) x y := by
  cases x with
  | none =>
    cases y with
    | none => exact .none
    | some b => cases h
  | some a =>
    cases y with
    | none => cases h
    | some b => exact .some (Option.some.inj h)

/-! ## Tame operations -/

/-- The fault says that a command lacks what it is about. -/
def Fault.isLost : Fault → Bool
  | .neverEnsured .. | .noInterface | .noVlan | .noLine => true
  | _ => false

/-- The operation never ends in a fault that says that something is lost. -/
def Tame (x : Except Fault α) : Prop := ∀ f, x = .error f → f.isLost = false

theorem tame_ok (a : α) : Tame (.ok a : Except Fault α) := by
  intro f h
  cases h

theorem tame_pure (a : α) : Tame (pure a : Except Fault α) := tame_ok a

theorem tame_error {f : Fault} (h : f.isLost = false) : Tame (.error f : Except Fault α) := by
  intro g hg
  cases hg
  exact h

theorem tame_throw {f : Fault} (h : f.isLost = false) : Tame (throw f : Except Fault α) :=
  tame_error h

theorem tame_bind {x : Except Fault α} {f : α → Except Fault β} (hx : Tame x)
    (hf : ∀ a, x = .ok a → Tame (f a)) : Tame (x >>= f) := by
  intro e h
  rcases bind_eq_error_iff.1 h with h | ⟨a, ha, h⟩
  · exact hx e h
  · exact hf a ha e h

theorem tame_map {x : Except Fault α} {f : α → β} (hx : Tame x) : Tame (x.map f) := by
  cases x with
  | ok a => exact tame_ok _
  | error e => exact tame_error (hx e rfl)

theorem tame_mapM {f : α → Except Fault β} (hf : ∀ a, Tame (f a)) (as : List α) :
    Tame (as.mapM f) := by
  induction as with
  | nil => exact tame_ok _
  | cons a as ih =>
    rw [List.mapM_cons]
    exact tame_bind (hf a) fun b _ => tame_bind ih fun bs _ => tame_pure _

end NetLab
