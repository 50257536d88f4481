import NetLab.Proofs.Console.Meaning
import NetLab.Proofs.Network.Operation

set_option autoImplicit false

/-!
# Refusals

A command is refused by the command table, for the number of its arguments or for what they write,
for what it finds on its device, or because the change of a VLAN table that it asks for is rejected.
Nothing is rolled back then: what it wrote before would stay.  So that a refused command leaves
everything as it was (`Console.refused_of_dispatch`) is a matter of the order in every command: what
may refuse stands before what writes.  A change of a VLAN table, which may do both, is rejected
before its first write: where an id of any kind asks for it this is `Network.setVlanOf_of_rejected`,
and where a whole number does, the writes are listed one by one in `Network.Stepwise`.  Behind `do`
the session stands elsewhere when the refusal comes, and goes back.
-/

namespace NetLab

/-- If this is a refusal, it leaves the console. -/
def Outcome.Spares (c : Console) : Outcome → Prop
  | .refused _ next => next = c
  | _ => True

namespace Console

variable {c : Console}

/-! ## Ways to carry out a command -/

theorem attempt_spares {α : Type} {d : Console} {x : Except Fault α} {next : α → Outcome}
    (h : ∀ a, (next a).Spares c) : (d.attempt x next).Spares c := by
  cases x with
  | ok a => exact h a
  | error f => trivial

/-- What goes on behind a change of a VLAN table may not refuse any more. -/
theorem changeVlans_spares {x : Except Fault (Except Rejection Network)} {next : Console → Outcome}
    (h : ∀ d, (next d).Spares c) : (c.changeVlans x next).Spares c := by
  refine attempt_spares fun changed => ?_
  cases changed with
  | ok n => exact h _
  | error r => rfl

/-- Nor may what goes on behind a change of the selected interface. -/
theorem editSelected_spares {f : Interface → Interface} {next : Interface → Console → Outcome}
    (h : ∀ i d, (next i d).Spares c) : (c.editSelected f next).Spares c := by
  rw [editSelected]
  split
  · trivial
  · exact attempt_spares fun p => h p.1 _

theorem setOnSelected_spares {f : Interface → Interface} : (c.setOnSelected f).Spares c :=
  editSelected_spares fun _ _ => trivial

theorem editSelectedLine_spares {f : Line → Line} : (c.editSelectedLine f).Spares c := by
  rw [editSelectedLine]
  split
  · trivial
  · exact attempt_spares fun _ => trivial

theorem configure_spares {x : Except Fault Network} : (c.configure x).Spares c :=
  attempt_spares fun _ => trivial

/-! ## Commands -/

theorem ping_spares (ip : String) : (c.ping ip).Spares c := by
  rw [ping]
  split
  · trivial
  · refine attempt_spares fun v => ?_
    dsimp only
    split
    · trivial
    · trivial

theorem showDevice_spares {view : Device → Except Fault (List String)} :
    (c.showDevice view).Spares c :=
  attempt_spares fun _ => attempt_spares fun _ => trivial

theorem selectVlan_spares (word : String) : (c.selectVlan word).Spares c := by
  refine attempt_spares fun d => ?_
  split
  · rfl
  · split
    · rfl
    · exact changeVlans_spares fun _ => trivial

theorem deleteVlan_spares (word : String) : (c.deleteVlan word).Spares c := by
  rw [deleteVlan]
  split
  · rfl
  · exact changeVlans_spares fun _ => trivial

theorem selectLine_spares (word : String) : (c.selectLine word).Spares c := by
  rw [selectLine]
  split
  · rfl
  · trivial

theorem setShutdown_spares {down : Bool} : (c.setShutdown down).Spares c :=
  editSelected_spares fun _ _ => trivial

theorem setPortMode_spares (word : String) : (c.setPortMode word).Spares c := by
  rw [setPortMode]
  split
  · rfl
  · exact setOnSelected_spares

/-- The tag of a neighbour is given last, and nothing refuses it. -/
theorem tagNeighbour_spares (d : Console) (vlan : Int) : (d.tagNeighbour vlan).Spares c := by
  refine attempt_spares fun found => ?_
  cases found with
  | none => trivial
  | some link =>
    dsimp only
    split
    · trivial
    · split
      · exact attempt_spares fun _ => trivial
      · trivial

theorem setAccessVlan_spares (word : String) : (c.setAccessVlan word).Spares c := by
  rw [setAccessVlan]
  split
  · rfl
  · exact editSelected_spares fun _ d => tagNeighbour_spares d _

theorem setNativeVlan_spares (word : String) : (c.setNativeVlan word).Spares c := by
  rw [setNativeVlan]
  split
  · rfl
  · exact setOnSelected_spares

theorem setInterfaceAddress_spares (args : List String) :
    (c.setInterfaceAddress args).Spares c := by
  unfold setInterfaceAddress
  split
  · exact setOnSelected_spares
  · rfl

theorem nameVlan_spares (name : String) : (c.nameVlan name).Spares c := by
  rw [nameVlan]
  split
  · trivial
  · split
    · trivial
    · next r n h =>
      change c.withNetwork n = c
      rw [Network.setVlanOf_of_rejected h]
      rfl
    · trivial

theorem leave_spares : c.leave.Spares c := by
  rw [leave]
  split <;> trivial

theorem finish_spares : c.finish.Spares c := by
  rw [finish]
  split
  · rfl
  · trivial

end Console

/-- An action that is refused leaves its console. -/
theorem Action.run_spares (t : Timing) (args : List String) (c : Console) (a : Action) :
    (a.run t args c).Spares c := by
  cases a with
  | ping => exact Console.ping_spares _
  | showRunningConfig => exact Console.showDevice_spares
  | showVlan => exact Console.showDevice_spares
  | showInterfaces => exact Console.showDevice_spares
  | hostname => exact Console.attempt_spares fun _ => trivial
  | interface => exact Console.attempt_spares fun _ => trivial
  | vlan => exact Console.selectVlan_spares _
  | noVlan => exact Console.deleteVlan_spares _
  | routing enabled => exact Console.configure_spares
  | domainName => exact Console.configure_spares
  | line => exact Console.selectLine_spares _
  | shutdown down => exact Console.setShutdown_spares
  | portMode => exact Console.setPortMode_spares _
  | accessVlan => exact Console.setAccessVlan_spares _
  | trunkAllowed => exact Console.setOnSelected_spares
  | trunkNative => exact Console.setNativeVlan_spares _
  | address => exact Console.setInterfaceAddress_spares _
  | noAddress => exact Console.setOnSelected_spares
  | description => exact Console.setOnSelected_spares
  | noDescription => exact Console.setOnSelected_spares
  | vlanName => exact Console.nameVlan_spares _
  | password => exact Console.editSelectedLine_spares
  | noPassword => exact Console.editSelectedLine_spares
  | login required => exact Console.editSelectedLine_spares
  | exit => exact Console.leave_spares
  | finish => exact Console.finish_spares
  | vlanOutsideConfig => rfl
  | exec => rfl
  | enable | disable | configure | showVersion | showHistory | reload | help | clear => trivial

/-! ## Lines -/

/-- Where a session went back to its place, a refusal behind `do` leaves the console. -/
theorem Outcome.Spares.backTo {c : Console} {o : Outcome} (h : o.Spares c.privileged) :
    (o.backTo c.session.place).Spares c := by
  cases o with
  | refused r next =>
    change next.onSession _ = c
    rw [show next = c.privileged from h]
    rfl
  | done output next => trivial
  | failed f next => trivial

namespace Console

variable {t : Timing} {c next : Console} {r : Refusal}

theorem carryOut_spares (t : Timing) (c : Console) (m : Command.Meaning) :
    (c.carryOut t m).Spares c := by
  cases m with
  | refused r => rfl
  | plain a args => exact a.run_spares t args c
  | privileged a args => exact (a.run_spares t args c.privileged).backTo

theorem refused_of_carryOut {m : Command.Meaning} (h : c.carryOut t m = .refused r next) :
    next = c := by
  have spares := carryOut_spares t c m
  rwa [h] at spares

/-- A line that is refused leaves its console. -/
theorem refused_of_dispatch {words : List String} (h : c.dispatch t words = .refused r next) :
    next = c :=
  refused_of_carryOut ((dispatch_eq t words c).symm.trans h)

end Console

end NetLab
