import NetLab.Network.Import

set_option autoImplicit false

/-!
# Running readings

What a reading comes to, step by step, and what it keeps.  A reading keeps a property of its state
if the state has it afterwards whenever it had it before, whether or not the reading stopped at a
fault.
-/

namespace NetLab.Reading

variable {σ τ α β : Type}

/-! ## Runs -/

@[simp] theorem run_pure (a : α) (s : σ) : (pure a : Reading σ α).run s = (.ok a, s) := rfl

@[simp] theorem run_lift (x : Except Fault α) (s : σ) : (lift x : Reading σ α).run s = (x, s) := rfl

@[simp] theorem run_get (s : σ) : (get : Reading σ σ).run s = (.ok s, s) := rfl

@[simp] theorem run_set (s t : σ) : (set t : Reading σ PUnit).run s = (.ok ⟨⟩, t) := rfl

@[simp] theorem run_modify (f : σ → σ) (s : σ) :
    (modify f : Reading σ PUnit).run s = (.ok ⟨⟩, f s) := rfl

@[simp] theorem run_part (get : σ → τ) (set : τ → σ → σ) (r : Reading τ α) (s : σ) :
    (part get set r).run s = ((r.run (get s)).1, set (r.run (get s)).2 s) := rfl

/-- A reading that goes on with a result goes on from the state that it came with. -/
theorem run_bind_of_ok {r : Reading σ α} {f : α → Reading σ β} {s t : σ} {a : α}
    (h : r.run s = (.ok a, t)) : (r >>= f).run s = (f a).run t := by
  have hr : StateT.run r.run s = (.ok a, t) := h
  change (ExceptT.run (r >>= f)).run s = _
  rw [ExceptT.run_bind, StateT.run_bind, hr]
  rfl

theorem run_bind_of_error {r : Reading σ α} {f : α → Reading σ β} {s t : σ} {e : Fault}
    (h : r.run s = (.error e, t)) : (r >>= f).run s = (.error e, t) := by
  have hr : StateT.run r.run s = (.error e, t) := h
  change (ExceptT.run (r >>= f)).run s = _
  rw [ExceptT.run_bind, StateT.run_bind, hr]
  rfl

/-- A reading whose result does not matter ends as it does. -/
theorem run_discard (r : Reading σ α) (s : σ) :
    (discard r).run s = ((r.run s).1.map fun _ => (), (r.run s).2) := by
  change (r >>= fun _ => pure ()).run s = _
  cases h : r.run s with
  | mk x t =>
    cases x with
    | ok a => exact run_bind_of_ok h
    | error e => exact run_bind_of_error h

/-! ## What readings keep -/

/-- The state has the property after the reading whenever it had it before. -/
def Keeps (P : σ → Prop) (r : Reading σ α) : Prop := ∀ s, P s → P (r.run s).2

variable {P : σ → Prop}

theorem keeps_pure (a : α) : Keeps P (pure a) := fun _ h => h

theorem keeps_lift (x : Except Fault α) : Keeps P (lift x) := fun _ h => h

/-- A reading that looks at the state first may use what holds of it. -/
theorem keeps_get_bind {f : σ → Reading σ β} (hf : ∀ s, P s → P ((f s).run s).2) :
    Keeps P (get >>= f) := by
  intro s hs
  rw [run_bind_of_ok (run_get s)]
  exact hf s hs

theorem keeps_modify {f : σ → σ} (hf : ∀ s, P s → P (f s)) :
    Keeps P (modify f : Reading σ PUnit) := fun s h => hf s h

/-- If both steps keep the property, so do the two together; the second one is run only on results
of the first. -/
theorem keeps_bind {r : Reading σ α} {f : α → Reading σ β} (hr : Keeps P r)
    (hf : ∀ a s, (r.run s).1 = .ok a → Keeps P (f a)) : Keeps P (r >>= f) := by
  intro s hs
  have ht := hr s hs
  cases h : r.run s with
  | mk x t =>
    rw [h] at ht
    cases x with
    | ok a =>
      rw [run_bind_of_ok h]
      exact hf a s (by rw [h]) t ht
    | error e =>
      rw [run_bind_of_error h]
      exact ht

end NetLab.Reading
