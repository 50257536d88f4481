import NetLab.Proofs.Network.Intact
import NetLab.Proofs.Network.Numbering
import NetLab.Proofs.Network.Typed

set_option autoImplicit false

/-!
# Networks that calls make

A call is an operation whose arguments are of the types that it declares: texts, whole numbers and
truth values, and nothing where an argument may be left out.  What calls store reads back as long as
it is no empty text (`Network.Stored`): an empty host name, an empty management address and an empty
link id are stored as they are given, and an empty setting counts as none when it is read.
-/

namespace NetLab

/-! ## Devices -/

/-- Calls have stored the settings of the device.  Where `full` holds, its host name and its
management address are no empty texts. -/
structure Device.Stored (full : Prop) (d : Device) : Prop where
  label : d.label = d.hostname
  hostname : ∃ name, d.hostname = .text name ∧ (full → name ≠ "")
  address : d.address.IsTextOrNull
  addressed : full → d.address ≠ .text ""
  domainName : d.domainName.ifGiven = d.domainName
  displayVlan : d.displayVlan = .null ∨ ∃ vlan, d.displayVlan = .int vlan
  vlans : StorableVlans d.vlans
  interfaces : ∀ k i, d.interfaces.get? k = some i → i.Storable
  lines : ∀ name, ∃ l, d.lines.get? name = some l ∧ ∃ required, l.login = .bool required

/-- A VLAN that a call names is written with a text. -/
theorem StorableVlans.writeVlan {t : Index Int Value} (h : StorableVlans t) {vlan : Int}
    (low : minVlan ≤ vlan) (high : vlan ≤ maxVlan) (name : Option String) :
    StorableVlans (Network.writeVlan vlan (.ofText? name) t) := by
  have short := isShort_of_range low high
  have whole : StorableVlans
      ((t.putNew 1 (.text firstVlanName)).putNew vlan (.text (defaultVlanName vlan))) :=
    (h.putNew _ (isShort_of_range (by decide) (by decide))).putNew _ short
  rw [Network.writeVlan]
  cases name with
  | none => exact whole
  | some name =>
    split
    · exact whole.put name short
    · exact whole

namespace Device.Stored

variable {full : Prop} {d : Device}

/-- A label that is left out or empty gives way to the id. -/
theorem new {uid : String} {kind : Kind} {status : Status} {label address : Option String}
    (named : uid ≠ "") (addressed : full → address ≠ some "") :
    (Device.new uid kind (.ofText? label) (.ofText? address) status).Stored full := by
  have start : (Device.new uid kind (.ofText? label) .null status).Storable := by
    cases label with
    | none => exact Device.Storable.new named (.inl rfl : _ ∨ Value.null = .text "")
    | some label => exact Device.Storable.new named (Or.inr rfl)
  obtain ⟨name, hostname, notEmpty⟩ := start.hostname
  refine ⟨rfl, ⟨name, hostname, fun _ => notEmpty⟩, .ofText? address, fun h empty => ?_, rfl,
    Or.inl rfl, start.vlans, start.interfaces, start.lines⟩
  cases address with
  | none => cases empty
  | some address => exact addressed h (congrArg some (Value.text.inj empty))

theorem withVlans (h : d.Stored full) {t : Index Int Value} (ht : StorableVlans t) :
    ({ d with vlans := t } : Device).Stored full :=
  ⟨h.label, h.hostname, h.address, h.addressed, h.domainName, h.displayVlan, ht, h.interfaces,
    h.lines⟩

theorem putInterface (h : d.Stored full) {i : Interface} (hi : i.Storable) :
    (d.putInterface i).Stored full := by
  exact ⟨h.label, h.hostname, h.address, h.addressed, h.domainName, h.displayVlan, h.vlans,
    Roster.forall_put h.interfaces hi, h.lines⟩

theorem setHostname (h : d.Stored full) {name : String} (named : full → name ≠ "") :
    ({ d with hostname := .text name, label := .text name } : Device).Stored full :=
  ⟨rfl, ⟨name, rfl, named⟩, h.address, h.addressed, h.domainName, h.displayVlan, h.vlans,
    h.interfaces, h.lines⟩

/-- An address that is set is no empty text: it is cleared then. -/
theorem setAddress (h : d.Stored full) (ip : Option String) :
    ({ d with address := (Value.ofText? ip).ifGiven } : Device).Stored full := by
  refine ⟨h.label, h.hostname, (Value.IsTextOrNull.ofText? ip).ifGiven, fun _ empty => ?_,
    h.domainName, h.displayVlan, h.vlans, h.interfaces, h.lines⟩
  have kept := Value.ifGiven_ifGiven (.ofText? ip)
  dsimp only at empty
  rw [empty] at kept
  cases kept

theorem setDomainName (h : d.Stored full) (name : Option String) :
    ({ d with domainName := (Value.ofText? name).ifGiven } : Device).Stored full :=
  ⟨h.label, h.hostname, h.address, h.addressed, Value.ifGiven_ifGiven _, h.displayVlan, h.vlans,
    h.interfaces, h.lines⟩

theorem setDisplayVlan (h : d.Stored full) (vlan : Option Int) :
    ({ d with displayVlan := .ofInt? vlan } : Device).Stored full := by
  refine ⟨h.label, h.hostname, h.address, h.addressed, h.domainName, ?_, h.vlans, h.interfaces,
    h.lines⟩
  cases vlan with
  | none => exact Or.inl rfl
  | some vlan => exact Or.inr ⟨vlan, rfl⟩

theorem setStatus (h : d.Stored full) (status : Status) :
    ({ d with status } : Device).Stored full :=
  ⟨h.label, h.hostname, h.address, h.addressed, h.domainName, h.displayVlan, h.vlans,
    h.interfaces, h.lines⟩

theorem setRouting (h : d.Stored full) (routing : Bool) :
    ({ d with routing } : Device).Stored full :=
  ⟨h.label, h.hostname, h.address, h.addressed, h.domainName, h.displayVlan, h.vlans,
    h.interfaces, h.lines⟩

/-- What calls have stored reads back if it is no empty text. -/
theorem storable (h : d.Stored full) (named : d.hostname ≠ .text "")
    (addressed : d.address ≠ .text "") : d.Storable := by
  obtain ⟨name, hostname, -⟩ := h.hostname
  have notEmpty : name ≠ "" := fun empty => named (by rw [hostname, empty])
  refine ⟨?_, ⟨name, hostname, notEmpty⟩, ?_, h.domainName, h.displayVlan, h.vlans, h.interfaces,
    h.lines⟩
  · rw [h.label, hostname]
    simpa [Value.given] using notEmpty
  · have address := h.address
    generalize d.address = ip at address addressed
    cases address with
    | null => rfl
    | text ip =>
      have given : (Value.text ip).given = true := by simpa [Value.given] using addressed
      rw [Value.ifGiven, if_pos given]

end Device.Stored

/-! ## Networks -/

namespace Network

variable {full : Prop} {n m : Network} {uid : String}

/-- Calls have stored the settings of the devices and the ids of the links.  Where `full` holds, no
host name, no management address and no link id is an empty text. -/
structure Stored (full : Prop) (n : Network) : Prop where
  devices : ∀ uid d, n.devices.get? uid = some d → d.Stored full
  linkIds : ∀ k l, n.links.get? k = some l → ∃ id, l.id = .text id ∧ (full → id ≠ "")

namespace Stored

theorem empty : Network.empty.Stored full where
  devices := by
    intro uid d h
    cases h
  linkIds := by
    intro k l h
    cases h

theorem alter {f : Device → Device} (h : n.Stored full)
    (hf : ∀ d : Device, d.Stored full → (f d).Stored full) : (n.alter uid f).Stored full where
  devices := by
    intro k d hd
    rw [get?_alter, Option.map_eq_some_iff] at hd
    obtain ⟨old, hold, rfl⟩ := hd
    split
    · exact hf old (h.devices k old hold)
    · exact h.devices k old hold
  linkIds := h.linkIds

theorem update {f : Device → Device} (h : n.Stored full)
    (hf : ∀ d : Device, d.Stored full → (f d).Stored full) :
    (n.after (n.update uid f)).Stored full :=
  after_induction h fun _ hm => (update_eq_ok_iff.1 hm).2 ▸ h.alter hf

theorem addDevice {kind status : String} {label address : Option String} {d : Device}
    (h : n.Stored full) (hn : n.Proper) (addressed : full → address ≠ some "")
    (hm : n.addDevice ⟨uid, .text kind, .ofText? label, .ofText? address, .text status⟩ =
      .ok (d, m)) : m.Stored full := by
  obtain ⟨rfl, -⟩ | ⟨-, rfl, kind, status, -, -, named, hd⟩ := addDevice_eq_ok hn hm
  · exact h
  · refine ⟨Roster.forall_put h.devices ?_, h.linkIds⟩
    rw [hd]
    exact .new named addressed

theorem putLink {id a b : String} (h : n.Stored full) (named : full → id ≠ "") :
    (n.putLink ⟨.text id, a, b⟩).Stored full where
  devices := h.devices
  linkIds := Roster.forall_put h.linkIds ⟨id, rfl, named⟩

/-- A link that is numbered has no empty id. -/
theorem addLink {a b : String} {given : Option String} {id : Value} (h : n.Stored full)
    (named : full → given ≠ some "") (hm : n.addLink a b (.ofText? given) = .ok (id, m)) :
    m.Stored full := by
  obtain ⟨-, -, ⟨-, rfl⟩ | ⟨explicit, k, -, -, rfl⟩⟩ := addLink_eq_ok hm
  · exact Stored.putLink ⟨h.devices, h.linkIds⟩ fun _ => Link.autoId_ne_empty _
  · cases given with
    | none => exact absurd rfl explicit
    | some id => exact h.putLink fun hfull empty => named hfull (congrArg some empty)

theorem removeDevice (h : n.Stored full) (uid : String) : (n.removeDevice uid).Stored full where
  devices k d hd := h.devices k d (get?_devices_removeDevice hd)
  linkIds k l hl := h.linkIds k l (get?_links_removeDevice hl)

theorem removeLink {id : Value} (h : n.Stored full) (hm : n.removeLink id = .ok m) :
    m.Stored full where
  devices := by
    rw [devices_removeLink hm]
    exact h.devices
  linkIds k l hl := h.linkIds k l (get?_links_removeLink hm hl)

theorem ensureInterface {name : String} {i : Interface} (h : n.Stored full)
    (hm : n.ensureInterface uid (.text name) = .ok (i, m)) : m.Stored full := by
  obtain ⟨d, k, -, -, ⟨-, rfl⟩ | ⟨-, -, rfl⟩⟩ := ensureInterface_eq_ok hm
  · exact h
  · exact h.alter fun d hd => hd.putInterface (Interface.storable_new name)

theorem setVlan (h : n.Stored full) (vlan : Int) (name : Option String) :
    (n.setVlanOf uid (.int vlan) (.ofText? name)).2.Stored full := by
  rw [setVlanOf_int]
  split
  · next hm =>
    obtain ⟨_, -, -, low, high, rfl⟩ := setVlan_eq_ok hm
    exact h.alter fun d hd => hd.withVlans (hd.vlans.writeVlan low high name)
  · exact h
  · exact h

theorem removeVlan {vlan : Value} (h : n.Stored full)
    (hm : n.removeVlanOf uid vlan = .ok (.ok m)) : m.Stored full := by
  obtain rfl | ⟨v, hm⟩ := removeVlanOf_eq_ok hm
  · exact h
  · obtain ⟨_, -, -, -, rfl⟩ := removeVlan_eq_ok hm
    exact h.alter fun d hd => hd.withVlans (hd.vlans.erase v)

end Stored

/-! ## Calls -/

/-- A call, with arguments of the types that it declares. -/
inductive Call where
  | addDevice (uid kind : String) (label address : Option String) (status : String)
  | addLink (a b : String) (id : Option String)
  | removeDevice (uid : String)
  | removeLink (id : String)
  | setHostname (uid name : String)
  | setAddress (uid : String) (ip : Option String)
  | setDomainName (uid : String) (name : Option String)
  | setStatus (uid status : String)
  | setRouting (uid : String) (enabled : Bool)
  | setDisplayVlan (uid : String) (vlan : Option Int)
  | setVlan (uid : String) (vlan : Int) (name : Option String)
  | removeVlan (uid : String) (vlan : Int)
  | ensureInterface (uid name : String)

namespace Call

/-- The operation that is called. -/
def operation : Call → Operation
  | addDevice uid kind label address status =>
    .addDevice ⟨uid, .text kind, .ofText? label, .ofText? address, .text status⟩
  | addLink a b id => .addLink a b (.ofText? id)
  | removeDevice uid => .removeDevice uid
  | removeLink id => .removeLink (.text id)
  | setHostname uid name => .setHostname uid (.text name)
  | setAddress uid ip => .setAddress uid (.ofText? ip)
  | setDomainName uid name => .setDomainName uid (.ofText? name)
  | setStatus uid status => .setStatus uid (.text status)
  | setRouting uid enabled => .setRouting uid enabled
  | setDisplayVlan uid vlan => .setDisplayVlan uid (.ofInt? vlan)
  | setVlan uid vlan name => .setVlan uid (.int vlan) (.ofText? name)
  | removeVlan uid vlan => .removeVlan uid (.int vlan)
  | ensureInterface uid name => .ensureInterface uid (.text name)

/-- The call gives an empty text where it is stored as it is given: as a host name, as the management
address of a device that is added, or as a link id. -/
def givesEmpty : Call → Bool
  | setHostname _ name => name = ""
  | addDevice _ _ _ address _ => address = some ""
  | addLink _ _ id => id = some ""
  | _ => false

theorem isLegal (c : Call) : c.operation.IsLegal := by
  cases c <;> exact trivial

end Call

theorem Stored.apply (h : n.Stored full) (hn : n.Proper) {c : Call}
    (given : full → c.givesEmpty = false) : (n.apply c.operation).Stored full := by
  cases c with
  | addDevice uid kind label address status =>
    refine after_map_induction h fun d m hm => h.addDevice hn (fun hfull => ?_) hm
    simpa [Call.givesEmpty] using given hfull
  | addLink a b id =>
    refine after_map_induction h fun _ m hm => h.addLink (fun hfull => ?_) hm
    simpa [Call.givesEmpty] using given hfull
  | removeDevice uid => exact h.removeDevice uid
  | removeLink id => exact after_induction h fun m hm => h.removeLink hm
  | setHostname uid name =>
    refine h.update fun d hd => hd.setHostname fun hfull => ?_
    simpa [Call.givesEmpty] using given hfull
  | setAddress uid ip => exact h.update fun d hd => hd.setAddress ip
  | setDomainName uid name => exact h.update fun d hd => hd.setDomainName name
  | setStatus uid status =>
    refine after_induction h fun m hm => ?_
    obtain ⟨x, -, hm⟩ := bind_eq_ok_iff.1 hm
    exact (update_eq_ok_iff.1 hm).2 ▸ h.alter fun d hd => hd.setStatus x
  | setRouting uid enabled => exact h.update fun d hd => hd.setRouting enabled
  | setDisplayVlan uid vlan => exact h.update fun d hd => hd.setDisplayVlan vlan
  | setVlan uid vlan name => exact h.setVlan vlan name
  | removeVlan uid vlan => exact afterChange_induction h fun m hm => h.removeVlan hm
  | ensureInterface uid name => exact after_map_induction h fun _ m hm => h.ensureInterface hm

/-- Whatever calls make is intact, and what they have stored is no empty text where none of them
gives one. -/
theorem stored_build {calls : List Call} (given : full → ∀ c ∈ calls, c.givesEmpty = false) :
    (build (calls.map Call.operation)).Intact ∧
      (build (calls.map Call.operation)).Stored full := by
  refine build_induction (P := fun n => n.Intact ∧ n.Stored full) ⟨intact_empty, .empty⟩ ?_
  rintro n ⟨intact, stored⟩ op hop
  obtain ⟨c, hc, rfl⟩ := List.mem_map.1 hop
  exact ⟨intact.apply c.isLegal, stored.apply intact.proper fun hfull => given hfull c hc⟩

end Network

end NetLab
