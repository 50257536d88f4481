import NetLab.Proofs.Console.Meaning

set_option autoImplicit false

/-!
# Commands do not look at the screen

What a command does is settled by the network and by the session without its screen and without the
hints that wait in it (`Session.bare`): whatever stands there, the same is printed, sent, refused or
ends in the same fault, and the same is left of the network and of the session.  Nor does a
command look at the history, unless it shows it (`Session.veiled`).  There is one lemma for each way
in which commands are carried out, one for all actions, and one for what a line means.
-/

namespace NetLab

/-- The session without what stands on its screen, and without the hints that wait to come there. -/
def Session.bare (s : Session) : Session := { s with transcript := [], hints := [] }

/-- What a command can reach, without the screen of its session. -/
def Console.bare (c : Console) : Console := { c with session := c.session.bare }

/-- What became of a command, without the screen of its session. -/
def Outcome.bare : Outcome → Outcome
  | .done output c => .done output c.bare
  | .refused r c => .refused r c.bare
  | .failed f c => .failed f c.bare

/-! ## Another history -/

/-- The session without its screen, and with a history that is made of its own. -/
def Session.veiled (past : List String → List String) (s : Session) : Session :=
  { s.bare with history := past s.history }

/-- What a command can reach, without the screen and with another history. -/
def Console.veiled (past : List String → List String) (c : Console) : Console :=
  { c with session := c.session.veiled past }

/-- What became of a command, without the screen and with another history. -/
def Outcome.veiled (past : List String → List String) : Outcome → Outcome
  | .done output c => .done output (c.veiled past)
  | .refused r c => .refused r (c.veiled past)
  | .failed f c => .failed f (c.veiled past)

/-- Where the history stays what it is, only the screen is left out. -/
theorem Outcome.veiled_id (o : Outcome) : o.veiled id = o.bare := by
  cases o <;> rfl

namespace Console

variable {c : Console} {past : List String → List String}

@[simp] theorem veiled_network : (c.veiled past).network = c.network := rfl

@[simp] theorem veiled_uid : (c.veiled past).session.uid = c.session.uid := rfl

@[simp] theorem veiled_place : (c.veiled past).session.place = c.session.place := rfl

@[simp] theorem veiled_mode : (c.veiled past).session.mode = c.session.mode := rfl

/-! ## Ways to carry out a command -/

/-- An operation that may fail goes on alike if what follows it does. -/
theorem attempt_veiled {α : Type} {x : Except Fault α} {next next' : α → Outcome}
    (hnext : ∀ v, next' v = (next v).veiled past) :
    (c.veiled past).attempt x next' = (c.attempt x next).veiled past := by
  cases x with
  | ok v => exact hnext v
  | error f => rfl

theorem ping_veiled (ip : String) :
    (c.veiled past).ping ip = (c.ping ip).veiled past := by
  rw [ping, ping, veiled_network]
  cases c.network.deviceByAddress (.text ip) with
  | none => rfl
  | some target =>
    refine attempt_veiled fun v => ?_
    dsimp only
    split <;> rfl

theorem showDevice_veiled (view : Device → Except Fault (List String)) :
    (c.veiled past).showDevice view = (c.showDevice view).veiled past :=
  attempt_veiled fun _ => attempt_veiled fun _ => rfl

theorem configure_veiled (x : Except Fault Network) :
    (c.veiled past).configure x = (c.configure x).veiled past :=
  attempt_veiled fun _ => rfl

theorem nameDevice_veiled (name : String) :
    (c.veiled past).nameDevice name = (c.nameDevice name).veiled past :=
  attempt_veiled fun _ => rfl

theorem selectInterface_veiled (words : List String) :
    (c.veiled past).selectInterface words = (c.selectInterface words).veiled past :=
  attempt_veiled fun _ => rfl

theorem changeVlans_veiled {x : Except Fault (Except Rejection Network)}
    {next : Console → Outcome}
    (hnext : ∀ c : Console, next (c.veiled past) = (next c).veiled past) :
    (c.veiled past).changeVlans x next = (c.changeVlans x next).veiled past := by
  refine attempt_veiled fun r => ?_
  cases r with
  | ok n => exact hnext (c.withNetwork n)
  | error r => rfl

theorem selectVlan_veiled (word : String) :
    (c.veiled past).selectVlan word = (c.selectVlan word).veiled past := by
  refine attempt_veiled fun d => ?_
  split
  · rfl
  · split
    · rfl
    · exact changeVlans_veiled fun _ => rfl

theorem deleteVlan_veiled (word : String) :
    (c.veiled past).deleteVlan word = (c.deleteVlan word).veiled past := by
  rw [deleteVlan, deleteVlan]
  split
  · rfl
  · exact changeVlans_veiled fun _ => rfl

theorem selectLine_veiled (word : String) :
    (c.veiled past).selectLine word = (c.selectLine word).veiled past := by
  rw [selectLine, selectLine]
  split <;> rfl

theorem editSelected_veiled {f : Interface → Interface} {next : Interface → Console → Outcome}
    (hnext : ∀ i (c : Console), next i (c.veiled past) = (next i c).veiled past) :
    (c.veiled past).editSelected f next = (c.editSelected f next).veiled past := by
  rw [editSelected, editSelected, veiled_place]
  cases c.session.place.interface with
  | null => rfl
  | _ => exact attempt_veiled fun p : Interface × Network => hnext p.1 (c.withNetwork p.2)

theorem setOnSelected_veiled (f : Interface → Interface) :
    (c.veiled past).setOnSelected f = (c.setOnSelected f).veiled past :=
  editSelected_veiled fun _ _ => rfl

theorem setShutdown_veiled (down : Bool) :
    (c.veiled past).setShutdown down = (c.setShutdown down).veiled past :=
  editSelected_veiled fun _ _ => rfl

theorem setPortMode_veiled (word : String) :
    (c.veiled past).setPortMode word = (c.setPortMode word).veiled past := by
  rw [setPortMode, setPortMode]
  split
  · rfl
  · exact setOnSelected_veiled _

theorem tagNeighbour_veiled (vlan : Int) :
    (c.veiled past).tagNeighbour vlan = (c.tagNeighbour vlan).veiled past := by
  refine attempt_veiled fun link => ?_
  cases link with
  | none => rfl
  | some link =>
    dsimp only [veiled_network, veiled_uid]
    cases c.network.devices.get? (link.other c.session.uid) with
    | none => rfl
    | some d =>
      dsimp only
      split
      · exact attempt_veiled fun _ => rfl
      · rfl

theorem setAccessVlan_veiled (word : String) :
    (c.veiled past).setAccessVlan word = (c.setAccessVlan word).veiled past := by
  rw [setAccessVlan, setAccessVlan]
  split
  · rfl
  · exact editSelected_veiled fun _ _ => tagNeighbour_veiled _

theorem setNativeVlan_veiled (word : String) :
    (c.veiled past).setNativeVlan word = (c.setNativeVlan word).veiled past := by
  rw [setNativeVlan, setNativeVlan]
  split
  · rfl
  · exact setOnSelected_veiled _

theorem setInterfaceAddress_veiled (args : List String) :
    (c.veiled past).setInterfaceAddress args = (c.setInterfaceAddress args).veiled past := by
  rw [setInterfaceAddress.eq_def, setInterfaceAddress.eq_def]
  split
  · exact setOnSelected_veiled _
  · rfl

theorem nameVlan_veiled (name : String) :
    (c.veiled past).nameVlan name = (c.nameVlan name).veiled past := by
  rw [nameVlan, nameVlan, veiled_place]
  cases c.session.place.vlan with
  | null => rfl
  | _ =>
    dsimp only [veiled_network, veiled_uid]
    split <;> rfl

theorem editSelectedLine_veiled (f : Line → Line) :
    (c.veiled past).editSelectedLine f = (c.editSelectedLine f).veiled past := by
  rw [editSelectedLine, editSelectedLine, veiled_place]
  cases c.session.place.line with
  | null => rfl
  | _ => exact attempt_veiled fun _ => rfl

theorem leave_veiled : (c.veiled past).leave = c.leave.veiled past := by
  rw [leave, leave, veiled_mode]
  cases c.session.mode <;> rfl

theorem finish_veiled : (c.veiled past).finish = c.finish.veiled past := by
  rw [finish, finish, veiled_mode]
  split <;> rfl

end Console

open Console in
/-- No action looks at the screen, and none but `showHistory` looks at the history. -/
theorem Action.run_veiled {a : Action} (other : a ≠ .showHistory) (t : Timing)
    (args : List String) (c : Console) (past : List String → List String) :
    a.run t args (c.veiled past) = (a.run t args c).veiled past := by
  cases a with
  | ping => exact ping_veiled _
  | showRunningConfig | showVlan | showInterfaces => exact showDevice_veiled _
  | hostname => exact nameDevice_veiled _
  | interface => exact selectInterface_veiled _
  | vlan => exact selectVlan_veiled _
  | noVlan => exact deleteVlan_veiled _
  | routing enabled => exact configure_veiled _
  | domainName => exact configure_veiled _
  | line => exact selectLine_veiled _
  | shutdown down => exact setShutdown_veiled _
  | portMode => exact setPortMode_veiled _
  | accessVlan => exact setAccessVlan_veiled _
  | trunkNative => exact setNativeVlan_veiled _
  | address => exact setInterfaceAddress_veiled _
  | trunkAllowed | noAddress | description | noDescription => exact setOnSelected_veiled _
  | vlanName => exact nameVlan_veiled _
  | password | noPassword | login required => exact editSelectedLine_veiled _
  | exit => exact leave_veiled
  | finish => exact finish_veiled
  | showHistory => exact absurd rfl other
  | _ => rfl

/-- No action looks at the screen. -/
theorem Action.run_bare (t : Timing) (args : List String) (c : Console) (a : Action) :
    a.run t args c.bare = (a.run t args c).bare := by
  by_cases shows : a = .showHistory
  · subst shows
    rfl
  · rw [← Outcome.veiled_id]
    exact a.run_veiled shows t args c id

/-- The place to which a session goes back is neither on its screen nor in its history. -/
theorem Outcome.backTo_veiled (o : Outcome) (place : Place) (past : List String → List String) :
    (o.veiled past).backTo place = (o.backTo place).veiled past := by
  cases o <;> rfl

theorem Outcome.backTo_bare (o : Outcome) (place : Place) :
    o.bare.backTo place = (o.backTo place).bare := by
  cases o <;> rfl

namespace Console

/-- Whatever a line means but to show the history, it is carried out without a look at it. -/
theorem carryOut_veiled {m : Command.Meaning} (other : m.action? ≠ some .showHistory)
    (t : Timing) (c : Console) (past : List String → List String) :
    (c.veiled past).carryOut t m = (c.carryOut t m).veiled past := by
  cases m with
  | refused r => rfl
  | plain a args => exact a.run_veiled (fun h => other (congrArg some h)) t args c past
  | privileged a args =>
    change (a.run t args (c.privileged.veiled past)).backTo c.session.place =
      ((a.run t args c.privileged).backTo c.session.place).veiled past
    rw [a.run_veiled fun h => other (congrArg some h), Outcome.backTo_veiled]

/-- Whatever a line means, it is carried out without a look at the screen. -/
theorem carryOut_bare (t : Timing) (c : Console) (m : Command.Meaning) :
    c.bare.carryOut t m = (c.carryOut t m).bare := by
  cases m with
  | refused r => rfl
  | plain a args => exact a.run_bare t args c
  | privileged a args =>
    change (a.run t args c.privileged.bare).backTo c.session.place =
      ((a.run t args c.privileged).backTo c.session.place).bare
    rw [a.run_bare, Outcome.backTo_bare]

end Console

end NetLab
