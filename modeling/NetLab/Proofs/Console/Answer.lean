import NetLab.Proofs.Console.Meaning
import NetLab.Proofs.Console.View
import NetLab.Proofs.Port

set_option autoImplicit false

/-!
# Commands are answered

On a session of a storable and typed network every command is carried out or refused, with one
exception: setting an access VLAN reads the number at the end of the name of the selected interface,
and a number that is too long to be read is a fault (`Command.Meaning.overlong?`).  There is one
lemma for each way in which commands are carried out, one for all actions, and one for lines.
-/

namespace NetLab

/-! ## Faults of commands -/

/-- The fault that a command ended in. -/
def Outcome.fault? : Outcome → Option Fault
  | .failed f _ => some f
  | _ => none

@[simp] theorem Outcome.fault?_backTo (o : Outcome) (p : Place) :
    (o.backTo p).fault? = o.fault? := by
  cases o <;> rfl

/-- How many digits end the name of an interface, if a line sets its access VLAN and they are more
than a numeral may have. -/
def Command.Meaning.overlong? (interface : Value) : Command.Meaning → Option Nat
  | .plain .accessVlan args => (readVlan (args.headD "")).bind fun _ => Port.overlong? interface
  | _ => none

theorem Command.Meaning.lt_of_overlong? {m : Command.Meaning} {interface : Value} {digits : Nat}
    (h : m.overlong? interface = some digits) : Numeral.maxDigits < digits := by
  rw [overlong?.eq_def] at h
  split at h
  · obtain ⟨vlan, -, h⟩ := Option.bind_eq_some_iff.1 h
    exact Port.lt_of_overlong? h
  · cases h

namespace Console

/-- The session is one on a device of a network that documents can hold, and what its mode is about
is there. -/
structure On (d : Device) (c : Console) : Prop where
  storable : c.network.Storable
  typed : c.network.Typed
  found : c.network.device? c.session.uid = some d
  interface : c.session.mode = .interface →
    ∃ name, c.session.place.interface = .text name ∧ d.interfaces.contains (.text name) = true
  vlan : c.session.mode = .vlan → ∃ vlan, c.session.place.vlan = .int vlan
  line : c.session.mode = .line → ∃ name : LineName, c.session.place.line = .text name.name

variable {t : Timing} {c : Console} {d : Device}

namespace On

theorem storable_device (h : c.On d) : d.Storable := h.storable.devices _ _ h.found

theorem typed_device (h : c.On d) : d.Typed := h.typed _ _ h.found

/-- In privileged mode a session needs nothing to be about. -/
theorem privileged (h : c.On d) : c.privileged.On d where
  storable := h.storable
  typed := h.typed
  found := h.found
  interface := by
    intro hm
    cases hm
  vlan := by
    intro hm
    cases hm
  line := by
    intro hm
    cases hm

end On

/-! ## Ways to carry out a command -/

/-- An operation that succeeds is no fault, and what follows it decides. -/
theorem fault?_attempt {α : Type} {x : Except Fault α} {next : α → Outcome} {f : Option Fault}
    (hx : Succeeds x) (hnext : ∀ a, x = .ok a → (next a).fault? = f) :
    (c.attempt x next).fault? = f := by
  obtain ⟨a, ha⟩ := hx
  rw [ha]
  exact hnext a ha

theorem fault?_showDevice (h : c.On d) {view : Device → Except Fault (List String)}
    (hview : Succeeds (view d)) : (c.showDevice view).fault? = none := by
  refine fault?_attempt ⟨d, Network.succeeds_device h.found⟩ fun x hx => ?_
  obtain rfl := Except.ok.inj ((Network.succeeds_device h.found).symm.trans hx)
  exact fault?_attempt hview fun lines _ => rfl

theorem fault?_ping (h : c.On d) (ip : String) : (c.ping ip).fault? = none := by
  rw [ping]
  split
  · rfl
  · refine fault?_attempt (h.typed.succeeds_trace _ _) fun v _ => ?_
    dsimp only
    split
    · rfl
    · rfl

theorem fault?_configure {x : Except Fault Network} (hx : Succeeds x) :
    (c.configure x).fault? = none :=
  fault?_attempt hx fun _ _ => rfl

theorem fault?_changeVlans {x : Except Fault (Except Rejection Network)}
    {next : Console → Outcome} (hx : Succeeds x) (hnext : ∀ c, (next c).fault? = none) :
    (c.changeVlans x next).fault? = none := by
  refine fault?_attempt hx fun r _ => ?_
  cases r with
  | ok n => exact hnext _
  | error r => rfl

theorem fault?_selectVlan (h : c.On d) (word : String) : (c.selectVlan word).fault? = none := by
  refine fault?_attempt ⟨d, Network.succeeds_device h.found⟩ fun x _ => ?_
  split
  · rfl
  · split
    · rfl
    · exact fault?_changeVlans (Network.succeeds_setVlan h.found _ _) fun _ => rfl

theorem fault?_deleteVlan (h : c.On d) (word : String) : (c.deleteVlan word).fault? = none := by
  rw [deleteVlan]
  split
  · rfl
  · exact fault?_changeVlans (Network.succeeds_removeVlan h.found _) fun _ => rfl

theorem fault?_selectLine (word : String) : (c.selectLine word).fault? = none := by
  rw [selectLine]
  split
  · rfl
  · rfl

/-- The selected interface is there to be changed, and what follows decides. -/
theorem fault?_editSelected {f : Interface → Interface} {next : Interface → Console → Outcome}
    {fault : Option Fault} (h : c.On d) (hm : c.session.mode = .interface)
    (hnext : ∀ i n, c.network.editInterface c.session.uid c.session.place.interface f = .ok (i, n) →
      (next i (c.withNetwork n)).fault? = fault) : (c.editSelected f next).fault? = fault := by
  obtain ⟨name, current, there⟩ := h.interface hm
  rw [current] at hnext
  rw [editSelected, current]
  exact fault?_attempt (Network.succeeds_editInterface h.found there f) fun p hp => hnext p.1 p.2 hp

theorem fault?_setOnSelected (h : c.On d) (hm : c.session.mode = .interface)
    (f : Interface → Interface) : (c.setOnSelected f).fault? = none :=
  fault?_editSelected h hm fun _ _ _ => rfl

theorem fault?_setShutdown (h : c.On d) (hm : c.session.mode = .interface) (down : Bool) :
    (c.setShutdown down).fault? = none :=
  fault?_editSelected h hm fun _ _ _ => rfl

theorem fault?_setPortMode (h : c.On d) (hm : c.session.mode = .interface) (word : String) :
    (c.setPortMode word).fault? = none := by
  rw [setPortMode]
  split
  · rfl
  · exact fault?_setOnSelected h hm _

theorem fault?_setNativeVlan (h : c.On d) (hm : c.session.mode = .interface) (word : String) :
    (c.setNativeVlan word).fault? = none := by
  rw [setNativeVlan]
  split
  · rfl
  · exact fault?_setOnSelected h hm _

theorem fault?_setInterfaceAddress (h : c.On d) (hm : c.session.mode = .interface)
    (args : List String) : (c.setInterfaceAddress args).fault? = none := by
  unfold setInterfaceAddress
  split
  · exact fault?_setOnSelected h hm _
  · rfl

/-- The end host at a port can be told its tag unless the number of the port is too long. -/
theorem fault?_tagNeighbour {name : String} (hp : c.network.Proper)
    (ids : ∀ l ∈ c.network.links.values, ∃ id, l.id = .text id)
    (current : c.session.place.interface = .text name) (vlan : Int) :
    (c.tagNeighbour vlan).fault? =
      (Port.overlong? c.session.place.interface).map .longNumeral := by
  obtain ⟨i, hi⟩ := Port.position?_eq name
  rw [tagNeighbour, current]
  cases hlong : Port.overlong? (.text name) with
  | some digits =>
    have unread : Port.linkFor? c.session.uid (.text name) c.network.links.values =
        .error (.longNumeral digits) := by
      rw [hlong] at hi
      rw [Port.linkFor?, bind_eq_error_iff]
      exact Or.inl hi
    rw [unread]
    rfl
  | none =>
    have read : Succeeds (Port.linkFor? c.session.uid (.text name) c.network.links.values) := by
      rw [hlong] at hi
      refine succeeds_bind ⟨i, hi⟩ fun j _ => ?_
      cases j with
      | none => exact succeeds_pure _
      | some j =>
        dsimp only
        split
        · exact succeeds_pure _
        · exact succeeds_bind (Port.succeeds_sortedLinks _ ids) fun _ _ => succeeds_pure _
    refine fault?_attempt read fun found _ => ?_
    cases found with
    | none => rfl
    | some link =>
      dsimp only
      split
      · rfl
      · next host hhost =>
        split
        · have there : c.network.device? host.uid = some host := by
            have proper := hp _ _ hhost
            rw [Network.device?, proper.uid, proper.trimmed, hhost]
          exact fault?_attempt (Network.succeeds_update there _) fun _ _ => rfl
        · rfl

theorem fault?_setAccessVlan (h : c.On d) (hm : c.session.mode = .interface)
    (args : List String) :
    (c.setAccessVlan (args.headD "")).fault? =
      ((Command.Meaning.plain .accessVlan args).overlong? c.session.place.interface).map
        .longNumeral := by
  obtain ⟨name, current, -⟩ := h.interface hm
  rw [setAccessVlan, Command.Meaning.overlong?]
  cases readVlan (args.headD "") with
  | none => rfl
  | some vlan =>
    rw [Option.bind_some]
    refine fault?_editSelected h hm fun i n hedit => ?_
    obtain ⟨_, _, _, _, _, _, _, hn⟩ := Network.editInterface_eq_ok hedit
    refine fault?_tagNeighbour (c := c.withNetwork n) (h.storable.proper.editInterface hedit) ?_
      current vlan
    change ∀ l ∈ n.links.values, _
    rw [hn]
    exact h.storable.id_text

theorem fault?_nameVlan (h : c.On d) (hm : c.session.mode = .vlan) (name : String) :
    (c.nameVlan name).fault? = none := by
  obtain ⟨vlan, current⟩ := h.vlan hm
  obtain ⟨r, hr⟩ := Network.succeeds_setVlan h.found vlan (.text name)
  rw [nameVlan, current]
  dsimp only
  rw [Network.setVlanOf_int, hr]
  cases r <;> rfl

theorem fault?_editSelectedLine (h : c.On d) (hm : c.session.mode = .line) (f : Line → Line) :
    (c.editSelectedLine f).fault? = none := by
  obtain ⟨name, current⟩ := h.line hm
  rw [editSelectedLine, current]
  exact fault?_attempt (Network.succeeds_editLine h.found name f) fun _ _ => rfl

theorem fault?_leave : c.leave.fault? = none := by
  rw [leave]
  split
  · rfl
  · rfl
  · rfl
  · rfl

theorem fault?_finish : c.finish.fault? = none := by
  rw [finish]
  split
  · rfl
  · rfl

/-! ## Actions and lines -/

/-- An action of the session's mode ends in a fault only where it reads a number that is too
long. -/
theorem fault?_run {a : Action} (h : c.On d) (ha : a.isOf c.session.mode = true)
    (args : List String) :
    (a.run t args c).fault? =
      ((Command.Meaning.plain a args).overlong? c.session.place.interface).map .longNumeral := by
  have device : Succeeds (c.network.device c.session.uid) := ⟨d, Network.succeeds_device h.found⟩
  have set : ∀ f : Device → Device, Succeeds (c.network.update c.session.uid f) :=
    Network.succeeds_update h.found
  cases a with
  | ping => exact fault?_ping h _
  | showRunningConfig =>
    exact fault?_showDevice h (Show.succeeds_runningConfig h.storable_device)
  | showVlan => exact fault?_showDevice h (Show.succeeds_vlanBrief h.storable_device h.typed_device)
  | showInterfaces =>
    exact fault?_showDevice h
      (Show.succeeds_interfaceBrief h.storable_device h.typed_device h.storable.id_text)
  | hostname => exact fault?_attempt (set _) fun _ _ => rfl
  | interface =>
    exact fault?_attempt (Network.succeeds_ensureInterface h.found _) fun _ _ => rfl
  | vlan => exact fault?_selectVlan h _
  | noVlan => exact fault?_deleteVlan h _
  | routing enabled => exact fault?_configure (set _)
  | domainName => exact fault?_configure (set _)
  | line => exact fault?_selectLine _
  | shutdown down => exact fault?_setShutdown h (by simpa [Action.isOf] using ha) down
  | portMode => exact fault?_setPortMode h (by simpa [Action.isOf] using ha) _
  | accessVlan => exact fault?_setAccessVlan h (by simpa [Action.isOf] using ha) args
  | trunkAllowed => exact fault?_setOnSelected h (by simpa [Action.isOf] using ha) _
  | trunkNative => exact fault?_setNativeVlan h (by simpa [Action.isOf] using ha) _
  | address => exact fault?_setInterfaceAddress h (by simpa [Action.isOf] using ha) _
  | noAddress => exact fault?_setOnSelected h (by simpa [Action.isOf] using ha) _
  | description => exact fault?_setOnSelected h (by simpa [Action.isOf] using ha) _
  | noDescription => exact fault?_setOnSelected h (by simpa [Action.isOf] using ha) _
  | vlanName => exact fault?_nameVlan h (by simpa [Action.isOf] using ha) _
  | password => exact fault?_editSelectedLine h (by simpa [Action.isOf] using ha) _
  | noPassword => exact fault?_editSelectedLine h (by simpa [Action.isOf] using ha) _
  | login required => exact fault?_editSelectedLine h (by simpa [Action.isOf] using ha) _
  | exit => exact fault?_leave
  | finish => exact fault?_finish
  | _ => rfl

/-- Carrying out a line ends in a fault only where it reads a number that is too long. -/
theorem fault?_carryOut (h : c.On d) (words : List String) :
    (c.carryOut t (Command.meaning c.session.mode words)).fault? =
      ((Command.meaning c.session.mode words).overlong? c.session.place.interface).map
        .longNumeral := by
  have means := @Command.means_of_meaning words c.session.mode
  cases hmeaning : Command.meaning c.session.mode words with
  | refused r => rfl
  | plain a args => exact fault?_run h (means.1 a args hmeaning).isOf args
  | privileged a args =>
    have isOf : a.isOf .privileged = true := (means.2 a args hmeaning).isOf
    rw [carryOut, Outcome.fault?_backTo, fault?_run h.privileged isOf]
    -- no access VLAN is set in privileged mode
    cases a with
    | accessVlan => cases isOf
    | _ => rfl

end Console

end NetLab
