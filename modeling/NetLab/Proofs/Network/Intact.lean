import NetLab.Proofs.Network.Imported

set_option autoImplicit false

/-!
# Networks are intact

What holds of a network after any sequence of operations, also of those that fail and of imports
that stop half-way (`Network.Intact`): links stand under their ids and join devices of the network,
and devices stand under their ids, with interfaces that stand under their names.  The one operation
that is given something to run is the change of an interface, which must keep the name and write no
port mode but the three.
-/

namespace NetLab

open Reading

/-! ## Interfaces -/

/-- The interface carries the name under which it is kept, and its port mode is one of the three. -/
structure Interface.Intact (i : Interface) : Prop where
  name : i.name = i.key
  mode : i.mode.isLegal = true

namespace Interface

theorem intact_new (key : Value) : Intact { key } := ⟨rfl, rfl⟩

/-- Reading an interface leaves it intact, whatever the document says. -/
theorem intact_read (fs : Fields) : Keeps Intact (Interface.read fs) := by
  refine keeps_bind (keeps_modify fun i hi => ⟨hi.name, ?_⟩) fun _ _ _ => ?_
  · cases hmode : (Value.field? "switchportMode" fs).bind PortMode.ofValue? with
    | none => exact hi.mode
    | some m =>
      obtain ⟨v, _, hv⟩ := Option.bind_eq_some_iff.1 hmode
      exact PortMode.isLegal_of_ofValue? hv
  have setting : ∀ f : Interface → Interface, (∀ i, (f i).name = i.name) →
      (∀ i, (f i).key = i.key) → (∀ i, (f i).mode = i.mode) →
      Keeps Intact (modify f : Reading Interface PUnit) := by
    intro f hname hkey hmode
    refine keeps_modify fun i hi => ⟨?_, (congrArg PortMode.isLegal (hmode i)).trans hi.mode⟩
    rw [hname, hkey, hi.name]
  refine keeps_get_bind fun i hi => keeps_bind (keeps_lift _) (fun vlan _ _ => ?_) i hi
  refine keeps_bind (setting _ (fun _ => rfl) (fun _ => rfl) fun _ => rfl) fun _ _ _ => ?_
  refine keeps_bind (setting _ (fun _ => rfl) (fun _ => rfl) fun _ => rfl) fun _ _ _ => ?_
  refine keeps_get_bind fun i hi => keeps_bind (keeps_lift _) (fun vlan _ _ => ?_) i hi
  exact setting _ (fun _ => rfl) (fun _ => rfl) fun _ => rfl

end Interface

/-! ## Devices -/

namespace Device

variable {d : Device} {uid : String}

/-- Every interface of the device is intact. -/
def WellNamed (d : Device) : Prop := ∀ k i, d.interfaces.get? k = some i → i.Intact

theorem WellNamed.putInterface (h : d.WellNamed) {i : Interface} (hi : i.Intact) :
    (d.putInterface i).WellNamed := Roster.forall_put h hi

theorem wellNamed_readInterfaces (fs : Fields) : Keeps WellNamed (readInterfaces fs) :=
  keeps_readInterfaces_of (fun _ hd => hd) (fun _ _ hd hi => hd.putInterface hi)
    fun _ _ settings _ => ⟨Interface.intact_new _, Interface.intact_read settings⟩

/-- Reading the settings of a device leaves its interfaces intact.  Only the table of interfaces
reaches them. -/
theorem wellNamed_read (fs : Fields) : Keeps WellNamed (Device.read fs) :=
  keeps_read_of (fun _ hd => hd) (fun _ _ hd _ => hd) (keeps_readVlanTable_of fun _ _ hd => hd)
    (fun es _ => wellNamed_readInterfaces es) fun _ _ _ hd => hd

/-- What holds of a device that stands under an id in a network that operations made. -/
structure Intact (uid : String) (d : Device) : Prop where
  trimmed : Text.trim uid = uid
  named : uid ≠ ""
  uid : d.uid = uid
  kind : d.kind ∈ Kind.all
  status : d.status ∈ [Status.up, .down, .booting]
  firstVlan : d.vlans.contains 1 = true
  interfaces : ∀ k i, d.interfaces.get? k = some i → i.key.plain = k ∧ i.Intact
  lines : ∀ e ∈ d.lines.toList, e.1.name ∈ LineName.names

theorem Proper.intact (h : d.Proper uid) (names : d.WellNamed) : d.Intact uid where
  trimmed := h.trimmed
  named := h.named
  uid := h.uid
  kind := by cases d.kind <;> decide
  status := by cases d.status <;> decide
  firstVlan := h.firstVlan
  interfaces := fun k i hi => ⟨h.keyed k i hi, names k i hi⟩
  lines := by
    rintro ⟨name, l⟩ -
    change name.name ∈ LineName.names
    cases name <;> decide

theorem Intact.wellNamed (h : d.Intact uid) : d.WellNamed := fun k i hi => (h.interfaces k i hi).2

end Device

/-! ## Networks -/

namespace Network

variable {n m : Network} {uid : String}

/-- What holds of every network that operations made. -/
structure Intact (n : Network) : Prop where
  devices : ∀ uid d, n.devices.get? uid = some d → d.Intact uid
  links : ∀ k l, n.links.get? k = some l → l.id.plain = k ∧
    n.devices.contains l.source = true ∧ n.devices.contains l.target = true

theorem intact_empty : empty.Intact where
  devices := by
    intro uid d h
    cases h
  links := by
    intro k l h
    cases h

namespace Intact

theorem proper (h : n.Intact) : n.Proper := by
  intro uid d hd
  have intact := h.devices uid d hd
  exact ⟨intact.trimmed, intact.named, intact.uid, intact.firstVlan,
    fun k i hi => (intact.interfaces k i hi).1⟩

theorem wellNamed (h : n.Intact) {d : Device} (hd : n.devices.get? uid = some d) :
    d.WellNamed := (h.devices uid d hd).wellNamed

/-- A change of devices that takes none away leaves the links in place. -/
theorem of_devices (h : n.Intact) (hm : m.Proper)
    (names : ∀ uid d, m.devices.get? uid = some d → d.WellNamed) (links : m.links = n.links)
    (there : ∀ uid, n.devices.contains uid = true → m.devices.contains uid = true) :
    m.Intact where
  devices := fun uid d hd => (hm uid d hd).intact (names uid d hd)
  links := by
    intro k l hl
    rw [links] at hl
    obtain ⟨hid, hsource, htarget⟩ := h.links k l hl
    exact ⟨hid, there _ hsource, there _ htarget⟩

theorem put {d : Device} (h : n.Intact) (hd : d.Proper d.uid) (names : d.WellNamed) :
    Intact { n with devices := n.devices.put d.uid d } := by
  have kept : ∀ k x, (n.devices.put d.uid d).get? k = some x → x.WellNamed :=
    Roster.forall_put (fun _ _ hx => h.wellNamed hx) names
  exact h.of_devices (h.proper.put hd) kept rfl fun k hk => Roster.contains_put hk

theorem alter {f : Device → Device} (h : n.Intact) (hm : (n.alter uid f).Proper)
    (names : ∀ d, n.device? uid = some d → d.WellNamed → (f d).WellNamed) :
    (n.alter uid f).Intact := by
  refine h.of_devices hm (fun k x hx => ?_) rfl fun k hk => ?_
  · rw [get?_alter, Option.map_eq_some_iff] at hx
    obtain ⟨old, hold, rfl⟩ := hx
    have kept := h.wellNamed hold
    split
    · next hk =>
      rw [hk] at hold
      exact names old hold kept
    · exact kept
  · rw [Roster.contains_iff] at hk ⊢
    obtain ⟨d, hd⟩ := hk
    exact ⟨_, by rw [get?_alter, hd, Option.map_some]⟩

/-- A link that is put under its id joins two devices of the network. -/
theorem putLink {l : Link String} (h : n.Intact) (hs : n.devices.contains l.source = true)
    (ht : n.devices.contains l.target = true) : (n.putLink l).Intact where
  devices := h.devices
  links := Roster.forall_put h.links ⟨rfl, hs, ht⟩

/-- The number of the next link does not count. -/
theorem takeLinkId (h : n.Intact) (reserved : List String) : (n.takeLinkId reserved).2.Intact :=
  ⟨h.devices, h.links⟩

/-! ### What the operations keep -/

theorem addDevice {e : Entry} {d : Device} (h : n.Intact) (hm : n.addDevice e = .ok (d, m)) :
    m.Intact := by
  obtain ⟨proper, there⟩ := h.proper.addDevice hm
  obtain ⟨rfl, -⟩ | ⟨-, rfl, kind, status, -, -, -, hd⟩ := addDevice_eq_ok h.proper hm
  · exact h
  · refine h.put (proper _ _ there) fun k i hi => ?_
    rw [hd] at hi
    cases hi

theorem addLink {a b : String} {id given : Value} (h : n.Intact)
    (hm : n.addLink a b given = .ok (id, m)) : m.Intact := by
  obtain ⟨ha, hb, ⟨-, rfl⟩ | ⟨-, k, -, -, rfl⟩⟩ := addLink_eq_ok hm
  · exact (h.takeLinkId []).putLink ha hb
  · exact h.putLink ha hb

/-- A device goes with the links that end at it; what remains joins devices that remain. -/
theorem removeDevice (h : n.Intact) (uid : String) : (n.removeDevice uid).Intact := by
  refine ⟨fun k d hd => h.devices k d (get?_devices_removeDevice hd), fun k l hl => ?_⟩
  obtain ⟨hid, source, target⟩ := h.links k l (get?_links_removeDevice hl)
  exact ⟨hid, contains_removeDevice hl l.touches_source source,
    contains_removeDevice hl l.touches_target target⟩

theorem removeLink {id : Value} (h : n.Intact) (hm : n.removeLink id = .ok m) : m.Intact := by
  have kept := devices_removeLink hm
  refine ⟨fun k d hd => h.devices k d (kept ▸ hd), fun k l hl => ?_⟩
  rw [kept]
  exact h.links k l (get?_links_removeLink hm hl)

theorem ensureInterface {name : Value} {i : Interface} (h : n.Intact)
    (hm : n.ensureInterface uid name = .ok (i, m)) : m.Intact := by
  have proper := h.proper.ensureInterface hm
  obtain ⟨d, k, _, _, ⟨_, rfl⟩ | ⟨_, _, rfl⟩⟩ := ensureInterface_eq_ok hm
  · exact h
  · exact h.alter proper fun d _ hd => hd.putInterface (Interface.intact_new name)

/-- An interface that is changed keeps its name and a legal port mode, if the change keeps them. -/
theorem editInterface {name : Value} {f : Interface → Interface} {i : Interface} (h : n.Intact)
    (keeps : ∀ i, (f i).name = i.name ∧ (i.mode.isLegal = true → (f i).mode.isLegal = true))
    (hm : n.editInterface uid name f = .ok (i, m)) : m.Intact := by
  have proper := h.proper.editInterface hm
  obtain ⟨d, k, old, hd, _, hold, rfl, rfl⟩ := editInterface_eq_ok hm
  have intact : Interface.Intact { f old with key := old.key } := by
    obtain ⟨name, mode⟩ := h.wellNamed hd k old hold
    exact ⟨(keeps old).1.trans name, (keeps old).2 mode⟩
  exact h.alter proper fun d _ hd => hd.putInterface intact

theorem editLine {line : Value} {f : Line → Line} {l : Line} (h : n.Intact)
    (hm : n.editLine uid line f = .ok (l, m)) : m.Intact := by
  have proper := h.proper.editLine hm
  obtain ⟨_, _, _, _, _, rfl⟩ := editLine_eq_ok hm
  exact h.alter proper fun _ _ hd => hd

theorem setVlanOf (h : n.Intact) (vlan name : Value) : (n.setVlanOf uid vlan name).2.Intact := by
  have proper : (n.setVlanOf uid vlan name).2.Proper := h.proper.setVlanOf
  obtain same | ⟨table, set⟩ := setVlanOf_cases n uid vlan name
  · rwa [same]
  · rw [set] at proper ⊢
    exact h.alter proper fun _ _ hd => hd

theorem removeVlanOf {vlan : Value} (h : n.Intact)
    (hm : n.removeVlanOf uid vlan = .ok (.ok m)) : m.Intact := by
  have proper := h.proper.removeVlanOf hm
  obtain rfl | ⟨v, hm⟩ := removeVlanOf_eq_ok hm
  · exact h
  · obtain ⟨_, _, _, _, rfl⟩ := removeVlan_eq_ok hm
    exact h.alter proper fun _ _ hd => hd

end Intact

theorem intact_readDevice (fs : Fields) : Keeps Intact (readDevice fs) := by
  intro n hn
  obtain h | ⟨entry, d, m, -, hadd, h⟩ := readDevice_cases fs n
  · rwa [h]
  · have hm := hn.addDevice hadd
    obtain ⟨proper, hget⟩ := hn.proper.addDevice hadd
    rw [h, hget, Option.getD_some]
    have read := Device.keeps_read fs d (proper _ _ hget)
    exact hm.put (by rw [read.uid]; exact read) (Device.wellNamed_read fs d (hm.wellNamed hget))

/-- What a document describes is intact, also where reading it stops. -/
theorem intact_importDocument (n : Network) (doc : Value) : (n.importDocument doc).2.Intact := by
  refine importDocument_induction n doc intact_empty intact_readDevice fun reserved fs => ?_
  refine keeps_readLink reserved fs (fun n hn => hn.takeLinkId _) ?_
  exact fun n _ _ _ _ m _ _ _ hn hadd => hn.addLink hadd

/-! ## Sequences of operations -/

/-- What the operation runs, if it runs anything, keeps the name of an interface and writes no port
mode but the three. -/
def Operation.IsLegal : Operation → Prop
  | .editInterface _ _ f =>
    ∀ i, (f i).name = i.name ∧ (i.mode.isLegal = true → (f i).mode.isLegal = true)
  | _ => True

theorem Intact.apply (h : n.Intact) {op : Operation} (legal : op.IsLegal) : (n.apply op).Intact := by
  have proper : (n.apply op).Proper := h.proper.apply op
  -- a setting of a device leaves its interfaces
  have setting : ∀ {x : Except Fault Network} (uid : String), (∀ m, x = .ok m →
      ∃ f : Device → Device, m = n.alter uid f ∧ ∀ d, (f d).interfaces = d.interfaces) →
      (n.after x).Proper → (n.after x).Intact := by
    intro x uid hx proper
    cases x with
    | error e => exact h
    | ok m =>
      obtain ⟨f, rfl, hf⟩ := hx m rfl
      refine h.alter proper fun d _ hd k i hi => hd k i ?_
      rwa [hf] at hi
  have updated : ∀ (uid : String) (f : Device → Device), (∀ d, (f d).interfaces = d.interfaces) →
      (n.after (n.update uid f)).Proper → (n.after (n.update uid f)).Intact :=
    fun uid f hf => setting uid fun m hm => ⟨f, (update_eq_ok_iff.1 hm).2, hf⟩
  cases op with
  | reset => exact intact_empty
  | addDevice e => exact after_map_induction h fun d m hm => h.addDevice hm
  | removeDevice uid => exact h.removeDevice uid
  | addLink a b id => exact after_map_induction h fun _ m hm => h.addLink hm
  | removeLink id => exact after_induction h fun m hm => h.removeLink hm
  | ensureInterface uid name => exact after_map_induction h fun _ m hm => h.ensureInterface hm
  | editInterface uid name f => exact after_map_induction h fun _ m hm => h.editInterface legal hm
  | editLine uid line f => exact after_map_induction h fun _ m hm => h.editLine hm
  | setVlan uid vlan name => exact h.setVlanOf vlan name
  | removeVlan uid vlan => exact afterChange_induction h fun m hm => h.removeVlanOf hm
  | setHostname uid name => exact updated uid _ (fun _ => rfl) proper
  | setRouting uid enabled => exact updated uid _ (fun _ => rfl) proper
  | setAddress uid ip => exact updated uid _ (fun _ => rfl) proper
  | setDisplayVlan uid vlan => exact updated uid _ (fun _ => rfl) proper
  | setStatus uid status =>
    refine setting uid (fun m hm => ?_) proper
    obtain ⟨x, _, hm⟩ := bind_eq_ok_iff.1 hm
    exact ⟨_, (update_eq_ok_iff.1 hm).2, fun _ => rfl⟩
  | setDomainName uid name => exact updated uid _ (fun _ => rfl) proper
  | importDevice doc =>
    cases doc with
    | object fs => exact intact_readDevice fs n h
    | _ => exact h
  | importDocument doc => exact intact_importDocument n doc

/-- A device that is removed goes with the links that end at it, and nothing else goes.  No link ends
at a device that is not there. -/
theorem Intact.removeDevice_eq (h : n.Intact) (uid : String) :
    n.removeDevice uid = { n with
      devices := n.devices.erase (Text.trim uid)
      links := n.links.filter fun _ l => !l.touches (Text.trim uid) } := by
  rw [Network.removeDevice]
  split
  · rfl
  · next absent =>
    have devices : n.devices.erase (Text.trim uid) = n.devices := by
      refine Roster.filter_of_forall fun k d hd => ?_
      have hk : k ≠ Text.trim uid := by
        rintro rfl
        exact absent (Roster.contains_iff.2 ⟨d, hd⟩)
      simpa using hk
    have links : n.links.filter (fun _ l => !l.touches (Text.trim uid)) = n.links := by
      refine Roster.filter_of_forall fun k l hl => ?_
      obtain ⟨-, hsource, htarget⟩ := h.links k l hl
      have hs : l.source ≠ Text.trim uid := by
        rintro hs
        exact absent (hs ▸ hsource)
      have ht : l.target ≠ Text.trim uid := by
        rintro ht
        exact absent (ht ▸ htarget)
      simp [Link.touches, hs, ht]
    rw [devices, links]

/-- Whatever operations make is intact, also where some of them failed; and removing a device takes
that device and the links that end at it, and nothing else. -/
theorem intact_build (ops : List Operation) (legal : ∀ op ∈ ops, op.IsLegal) :
    (build ops).Intact ∧ ∀ uid, (build ops).removeDevice uid = { build ops with
      devices := (build ops).devices.erase (Text.trim uid)
      links := (build ops).links.filter fun _ l => !l.touches (Text.trim uid) } := by
  have step : ∀ n : Network, n.Intact → (ops.foldl Network.apply n).Intact := by
    induction ops with
    | nil => exact fun _ h => h
    | cons op ops ih =>
      intro n h
      have rest := ih fun o ho => legal o (List.mem_cons_of_mem _ ho)
      exact rest _ (h.apply (legal op (List.mem_cons_self ..)))
  have intact : (build ops).Intact := step empty intact_empty
  exact ⟨intact, intact.removeDevice_eq⟩

/-- A trunk that is set, a link id that is taken, and a device whose record stops being read at the
access VLAN of an interface. -/
theorem intact_build_failing :
    let ops : List Operation := [
      .addDevice { uid := " S1 ", kind := .text "switch_l2" },
      .addDevice { uid := "P1", kind := .text "PC" },
      .addLink "S1" "P1 " (.text "L1"),
      .addLink "P1" "S1" (.text "L1"),
      .ensureInterface "S1" (.text "GigabitEthernet0/1"),
      .editInterface "S1" (.text "GigabitEthernet0/1") fun i => { i with mode := .trunk },
      .importDevice (.object [("id", .text "S1"), ("interfaceTable", .object [
        ("GigabitEthernet0/2", .object [("switchportMode", .text "dynamic"),
          ("accessVlan", .text "ten")])])])]
    (build ops).Intact ∧ ∀ uid, (build ops).removeDevice uid = { build ops with
      devices := (build ops).devices.erase (Text.trim uid)
      links := (build ops).links.filter fun _ l => !l.touches (Text.trim uid) } := by
  intro ops
  exact intact_build ops (by simp [ops, Operation.IsLegal, PortMode.isLegal])

end Network

end NetLab
