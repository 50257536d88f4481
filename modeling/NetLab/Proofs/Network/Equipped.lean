import NetLab.Proofs.Network.Fresh
import NetLab.Proofs.Network.Typed

set_option autoImplicit false

/-!
# What operations keep of interfaces and link ids

A property of interfaces holds all over a network if operations keep it: the interfaces that they
make have it, and those that they edit or read from a document keep it (`Operation.Equips`).  With
link ids that are texts, or left out, this is what a network must be like to be shown in tables
(`Network.Equipped`), and one lemma carries it over every operation.
-/

namespace NetLab

open Reading

variable {P : Interface → Prop}

/-! ## Devices -/

namespace Device

variable {d d' : Device}

/-- Every interface of the device has a property. -/
def Every (P : Interface → Prop) (d : Device) : Prop :=
  ∀ k i, d.interfaces.get? k = some i → P i

theorem every_new {uid : String} {kind : Kind} {label address : Value} {status : Status} :
    (Device.new uid kind label address status).Every P := by
  intro k i hi
  cases hi

theorem Every.of_interfaces (h : d.Every P) (same : d'.interfaces = d.interfaces) : d'.Every P := by
  intro k i hi
  rw [same] at hi
  exact h k i hi

theorem Every.putInterface (h : d.Every P) {i : Interface} (hi : P i) :
    (d.putInterface i).Every P := Roster.forall_put h hi

theorem Every.of_mem (h : d.Every P) : ∀ i ∈ d.interfaces.values, P i := by
  intro i hi
  obtain ⟨k, hk⟩ := Roster.mem_values_iff.1 hi
  exact h k i hk

end Device

/-- Whatever the record of a device says of interfaces, a new interface of that name has a property
and reading its settings keeps it. -/
def Fields.Equips (P : Interface → Prop) (fs : Fields) : Prop :=
  ∀ es, Value.field "interfaceTable" fs = .object es → ∀ e ∈ es, ∀ settings,
    e.2 = .object settings → P { key := .text e.1 } ∧ Keeps P (Interface.read settings)

namespace Device

theorem every_read {fs : Fields} (hfs : fs.Equips P) : Keeps (Every P) (Device.read fs) :=
  keeps_read_of (fun _ hd => hd.of_interfaces rfl) (fun _ _ hd _ => hd.of_interfaces rfl)
    (keeps_readVlanTable_of fun _ _ hd => hd.of_interfaces rfl)
    (fun es hes => keeps_readInterfaces_of (fun _ hd => hd) (fun _ _ hd hi => hd.putInterface hi)
      (hfs es hes))
    fun _ _ _ hd => hd.of_interfaces rfl

end Device

/-! ## Networks -/

namespace Network

variable {n m : Network} {uid : String}

/-- Links are named by texts, and every interface has a property. -/
structure Equipped (P : Interface → Prop) (n : Network) : Prop where
  interfaces : ∀ uid d, n.devices.get? uid = some d → d.Every P
  linkIds : ∀ k l, n.links.get? k = some l → ∃ id, l.id = .text id

/-- The operation names links by texts, if at all, and interfaces that it makes or changes have a
property. -/
def Operation.Equips (P : Interface → Prop) : Operation → Prop
  | .addLink _ _ id => id.IsTextOrNull
  | .ensureInterface _ name => P { key := name }
  | .editInterface _ _ f => ∀ i, P i → P { f i with key := i.key }
  | .importDevice doc => ∀ fs, doc = .object fs → Fields.Equips P fs
  | .importDocument doc => ∀ fs devices, doc = .object fs →
      (Value.field "devices" fs).records = .ok devices → ∀ r ∈ devices, Fields.Equips P r
  | _ => True

namespace Equipped

theorem empty : Network.empty.Equipped P where
  interfaces := by
    intro uid d h
    cases h
  linkIds := by
    intro k l h
    cases h

theorem alter {f : Device → Device} (h : n.Equipped P)
    (hf : ∀ d : Device, d.Every P → (f d).Every P) : (n.alter uid f).Equipped P where
  interfaces := by
    intro k d hd
    rw [get?_alter, Option.map_eq_some_iff] at hd
    obtain ⟨old, hold, rfl⟩ := hd
    split
    · exact hf old (h.interfaces k old hold)
    · exact h.interfaces k old hold
  linkIds := h.linkIds

theorem update {f : Device → Device} (h : n.Equipped P)
    (same : ∀ d : Device, (f d).interfaces = d.interfaces) :
    (n.after (n.update uid f)).Equipped P :=
  after_induction h fun _ hm =>
    (update_eq_ok_iff.1 hm).2 ▸ h.alter fun d hd => hd.of_interfaces (same d)

theorem putDevice {d : Device} (h : n.Equipped P) (hd : d.Every P) :
    ({ n with devices := n.devices.put uid d } : Network).Equipped P where
  interfaces := Roster.forall_put h.interfaces hd
  linkIds := h.linkIds

theorem putLink {id a b : String} (h : n.Equipped P) :
    (n.putLink ⟨.text id, a, b⟩).Equipped P where
  interfaces := h.interfaces
  linkIds := Roster.forall_put h.linkIds ⟨id, rfl⟩

/-- A device that is added is new, or it was there. -/
theorem addDevice {e : Entry} {d : Device} (h : n.Equipped P) (hm : n.addDevice e = .ok (d, m)) :
    m.Equipped P ∧ d.Every P := by
  obtain ⟨there, rfl⟩ | ⟨-, rfl, _, _, -, -, -, rfl⟩ := addDevice_cases hm
  · exact ⟨h, h.interfaces _ d there⟩
  · exact ⟨h.putDevice Device.every_new, Device.every_new⟩

theorem addLink {a b : String} {given id : Value} (h : n.Equipped P) (text : given.IsTextOrNull)
    (hm : n.addLink a b given = .ok (id, m)) : m.Equipped P := by
  obtain ⟨-, -, ⟨-, rfl⟩ | ⟨explicit, k, -, -, rfl⟩⟩ := addLink_eq_ok hm
  · exact putLink ⟨h.interfaces, h.linkIds⟩
  · cases text with
    | null => exact absurd rfl explicit
    | text id => exact h.putLink

theorem removeDevice (h : n.Equipped P) (uid : String) : (n.removeDevice uid).Equipped P where
  interfaces k d hd := h.interfaces k d (get?_devices_removeDevice hd)
  linkIds k l hl := h.linkIds k l (get?_links_removeDevice hl)

theorem removeLink {id : Value} (h : n.Equipped P) (hm : n.removeLink id = .ok m) :
    m.Equipped P where
  interfaces := by
    rw [devices_removeLink hm]
    exact h.interfaces
  linkIds k l hl := h.linkIds k l (get?_links_removeLink hm hl)

theorem ensureInterface {name : Value} {i : Interface} (h : n.Equipped P)
    (made : P { key := name }) (hm : n.ensureInterface uid name = .ok (i, m)) : m.Equipped P := by
  obtain ⟨d, k, -, -, ⟨-, rfl⟩ | ⟨-, -, rfl⟩⟩ := ensureInterface_eq_ok hm
  · exact h
  · exact h.alter fun d hd => hd.putInterface made

theorem editInterface {name : Value} {f : Interface → Interface} {i : Interface} (h : n.Equipped P)
    (edited : ∀ i, P i → P { f i with key := i.key })
    (hm : n.editInterface uid name f = .ok (i, m)) : m.Equipped P := by
  obtain ⟨d, k, old, hd, -, there, rfl, rfl⟩ := editInterface_eq_ok hm
  have written := edited old (h.interfaces _ d hd k old there)
  exact h.alter fun d hd => hd.putInterface written

/-! ### Documents -/

theorem readDevice {fs : Fields} (hfs : fs.Equips P) :
    Keeps (Equipped P) (Network.readDevice fs) := by
  intro n hn
  obtain h | ⟨entry, d, m, -, hadd, h⟩ := readDevice_cases fs n
  · rwa [h]
  · obtain ⟨hm, hd⟩ := hn.addDevice hadd
    have start : ((m.devices.get? d.uid).getD d).Every P := by
      cases there : m.devices.get? d.uid with
      | none => exact hd
      | some x => exact hm.interfaces _ x there
    rw [h]
    exact hm.putDevice (Device.every_read hfs _ start)

theorem readLink (reserved : List String) (fs : Fields) :
    Keeps (Equipped P) (Network.readLink reserved fs) := by
  refine keeps_readLink reserved fs (fun n hn => ⟨hn.interfaces, hn.linkIds⟩) ?_
  exact fun n _ _ id _ m _ _ _ hn hadd => hn.addLink (.text id) hadd

theorem importDevice {doc : Value} (h : n.Equipped P)
    (hdoc : ∀ fs, doc = .object fs → Fields.Equips P fs) : (n.importDevice doc).2.Equipped P := by
  cases doc with
  | object fs => exact readDevice (hdoc fs rfl) n h
  | _ => exact h

/-- What was there before does not matter to the network that a document describes, nor to what is
left of it where reading stops. -/
theorem importDocument (n : Network) {doc : Value} (hdoc : ∀ fs devices, doc = .object fs →
    (Value.field "devices" fs).records = .ok devices → ∀ r ∈ devices, Fields.Equips P r) :
    (n.importDocument doc).2.Equipped P := by
  rw [Network.importDocument, read.eq_def, run_bind_of_ok (run_set n Network.empty)]
  split
  · next fs =>
    refine keeps_bind (keeps_lift _) (fun devices _ hdevices => ?_) Network.empty empty
    have read := fun r hr => readDevice (hdoc fs devices rfl hdevices r hr)
    refine keeps_bind (keeps_readDevices read) fun _ _ _ => ?_
    exact keeps_bind (keeps_lift _) fun links _ _ => keeps_readLinks fun r _ => readLink _ r
  · exact empty

/-! ### Operations -/

theorem apply (h : n.Equipped P) {op : Operation} (hop : op.Equips P) :
    (n.apply op).Equipped P := by
  cases op with
  | reset => exact empty
  | addDevice e => exact after_map_induction h fun d m hm => (h.addDevice hm).1
  | removeDevice uid => exact h.removeDevice uid
  | addLink a b id => exact after_map_induction h fun _ m hm => h.addLink hop hm
  | removeLink id => exact after_induction h fun m hm => h.removeLink hm
  | ensureInterface uid name =>
    exact after_map_induction h fun _ m hm => h.ensureInterface hop hm
  | editInterface uid name f => exact after_map_induction h fun _ m hm => h.editInterface hop hm
  | editLine uid line f =>
    refine after_map_induction h fun _ m hm => ?_
    obtain ⟨_, _, -, -, -, rfl⟩ := editLine_eq_ok hm
    exact h.alter fun d hd => hd.of_interfaces rfl
  | setVlan uid vlan name =>
    obtain same | ⟨table, set⟩ := setVlanOf_cases n uid vlan name
    · rwa [Network.apply, same]
    · rw [Network.apply, set]
      exact h.alter fun d hd => hd.of_interfaces rfl
  | removeVlan uid vlan =>
    refine afterChange_induction h fun m hm => ?_
    obtain rfl | ⟨v, hm⟩ := removeVlanOf_eq_ok hm
    · exact h
    · obtain ⟨_, -, -, -, rfl⟩ := removeVlan_eq_ok hm
      exact h.alter fun d hd => hd.of_interfaces rfl
  | setHostname uid name => exact h.update fun _ => rfl
  | setRouting uid enabled => exact h.update fun _ => rfl
  | setAddress uid ip => exact h.update fun _ => rfl
  | setDisplayVlan uid vlan => exact h.update fun _ => rfl
  | setStatus uid status =>
    refine after_induction h fun m hm => ?_
    obtain ⟨x, -, hm⟩ := bind_eq_ok_iff.1 hm
    exact (update_eq_ok_iff.1 hm).2 ▸ h.alter fun d hd => hd.of_interfaces rfl
  | setDomainName uid name => exact h.update fun _ => rfl
  | importDevice doc => exact h.importDevice hop
  | importDocument doc => exact importDocument n hop

end Equipped

end Network

end NetLab
