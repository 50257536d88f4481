import NetLab.Proofs.Network.VlanTables
import NetLab.Proofs.Service.Validate

set_option autoImplicit false

/-!
# What becomes of the VLANs of a document

The VLAN table of a document names VLANs by texts, and a device keeps them by number.  Each key of a
document that is in order is read as the id of a VLAN, but several keys may be read as the same one,
with zeros in front or in the digits of another script.  Of these entries the last one counts, so
every entry is kept exactly if no two of them give one VLAN different names (`Service.vlans_of_ok`).
-/

namespace NetLab

/-! ## Readings that end in a state of a kind -/

theorem not_succeeds_error {α : Type} {e : Fault} : ¬ Succeeds (.error e : Except Fault α) := by
  rintro ⟨a, ⟨⟩⟩

namespace Reading

variable {σ α β : Type} {P : σ → Prop} {r : Reading σ α} {f : α → Reading σ β}

/-- The state has the property after the reading unless that stopped at a fault. -/
def Ensures (P : σ → Prop) (r : Reading σ α) : Prop :=
  ∀ s, Succeeds (r.run s).1 → P (r.run s).2

/-- What the second step ensures does not depend on the first. -/
theorem ensures_bind (hf : ∀ a, Ensures P (f a)) : Ensures P (r >>= f) := by
  intro s succeeds
  cases h : r.run s with
  | mk x t =>
    cases x with
    | ok a =>
      rw [run_bind_of_ok h] at succeeds ⊢
      exact hf a t succeeds
    | error e =>
      rw [run_bind_of_error h] at succeeds
      exact absurd succeeds not_succeeds_error

/-- What the first step ensures stays if the second one keeps it. -/
theorem ensures_bind_of_keeps (hr : Ensures P r) (hf : ∀ a, Keeps P (f a)) :
    Ensures P (r >>= f) := by
  intro s succeeds
  cases h : r.run s with
  | mk x t =>
    cases x with
    | ok a =>
      rw [run_bind_of_ok h]
      have first := hr s (by rw [h]; exact succeeds_ok a)
      rw [h] at first
      exact hf a t first
    | error e =>
      rw [run_bind_of_error h] at succeeds
      exact absurd succeeds not_succeeds_error

end Reading

/-! ## VLAN tables -/

/-- The name in the last of these entries whose key is read as this number. -/
def lastName (vlan : Int) : List (String × String) → Option String
  | [] => none
  | e :: es => (lastName vlan es).or (if readNumeral e.1 = .ok vlan then some e.2 else none)

theorem exists_of_lastName {vlan : Int} {name : String} {es : List (String × String)}
    (h : lastName vlan es = some name) : ∃ e ∈ es, readNumeral e.1 = .ok vlan ∧ e.2 = name := by
  induction es with
  | nil => cases h
  | cons e es ih =>
    rw [lastName, Option.or_eq_some_iff, Option.ite_none_right_eq_some, Option.some.injEq] at h
    obtain later | ⟨-, own⟩ := h
    · obtain ⟨x, hx, named⟩ := ih later
      exact ⟨x, List.mem_cons_of_mem _ hx, named⟩
    · exact ⟨e, List.mem_cons_self .., own⟩

theorem exists_lastName {vlan : Int} {es : List (String × String)} {e : String × String}
    (he : e ∈ es) (read : readNumeral e.1 = .ok vlan) : ∃ name, lastName vlan es = some name := by
  induction es with
  | nil => cases he
  | cons x es ih =>
    rw [lastName]
    rcases List.mem_cons.1 he with rfl | he
    · rw [if_pos read]
      cases lastName vlan es with
      | none => exact ⟨_, rfl⟩
      | some name => exact ⟨name, rfl⟩
    · obtain ⟨name, later⟩ := ih he
      exact ⟨name, by rw [later, Option.some_or]⟩

/-- Reading a VLAN table puts the last name of each number over what was there. -/
theorem get?_readVlans {es : List (String × String)} {t u : Index Int Value}
    (h : readVlans (es.map fun e => (e.1, .text e.2)) t = .ok u) (vlan : Int) :
    u.get? vlan = ((lastName vlan es).map Value.text).or (t.get? vlan) := by
  induction es generalizing t with
  | nil =>
    obtain rfl := Except.ok.inj h
    rfl
  | cons e es ih =>
    obtain ⟨number, read, h⟩ := bind_eq_ok_iff.1 h
    rw [ih h, Index.get?_put, lastName, read, Option.map_or, Option.or_assoc]
    by_cases same : number = vlan
    · rw [if_pos same.symm, if_pos (congrArg Except.ok same)]
      rfl
    · rw [if_neg (Ne.symm same), if_neg fun heq => same (Except.ok.inj heq)]
      rfl

/-! ## Devices -/

namespace Device

open Reading

variable {P : Index Int Value → Prop}

theorem keeps_vlans_readInterfaces (fs : Fields) :
    Keeps (fun d => P d.vlans) (readInterfaces fs) :=
  keeps_readInterfaces_of (Q := fun _ => True) (fun _ _ _ _ _ => trivial) (fun _ _ hd _ => hd)
    fun _ _ _ _ => ⟨trivial, fun _ _ => trivial⟩

/-- A device that was read has the VLAN table of its record, with VLAN 1 in it. -/
theorem ensures_vlans_read {fs es : Fields} (field : Value.field "vlanTable" fs = .object es)
    (table : ∀ t, readVlans es Index.empty = .ok t → P (t.putNew 1 (.text firstVlanName))) :
    Ensures (fun d => P d.vlans) (Device.read fs) := by
  refine ensures_bind fun _ => ensures_bind fun _ => ensures_bind fun _ => ?_
  refine ensures_bind_of_keeps ?_ fun _ => ?_
  · rw [field]
    intro d succeeds
    obtain ⟨t, read⟩ : Succeeds (readVlans es Index.empty) := by
      cases read : readVlans es Index.empty with
      | ok t => exact succeeds_ok t
      | error e =>
        rw [readVlanTable, run_bind_of_error (by rw [run_lift, read])] at succeeds
        exact absurd succeeds not_succeeds_error
    rw [readVlanTable, run_bind_of_ok (by rw [run_lift, read])]
    exact table t read
  · exact keeps_readTables_of (fun es _ => keeps_vlans_readInterfaces es) fun _ _ _ h => h

end Device

namespace Network

open Reading

variable {n : Network} {fs : Fields} {entry : Entry}

/-- Reading a device leaves the network, or puts there what was read under the id of the device. -/
theorem get?_readDevice {P : Device → Prop} (hn : n.Proper)
    (hentry : Entry.ofFields fs = .ok entry) (completes : Completes (Device.read fs))
    (ensures : Ensures P (Device.read fs)) :
    ((readDevice fs).run n).2 = n ∨ ∃ d, P d ∧ ∀ k,
      ((readDevice fs).run n).2.devices.get? k =
        if k = Text.trim entry.uid then some d else n.devices.get? k := by
  obtain same | ⟨entry', d, m, hentry', hadd, put⟩ := readDevice_cases fs n
  · exact .inl same
  · obtain rfl := Except.ok.inj (hentry.symm.trans hentry')
    obtain ⟨proper, hget⟩ := hn.addDevice hadd
    rw [hget, Option.getD_some] at put
    have uid : ((Device.read fs).run d).2.uid = d.uid :=
      (Device.keeps_read fs d (proper _ _ hget)).uid
    have trimmed : d.uid = Text.trim entry.uid := by
      obtain ⟨hold, -⟩ | ⟨-, -, _, _, -, -, -, rfl⟩ := addDevice_cases hadd
      · exact (hn _ _ hold).uid
      · rfl
    have others : ∀ k, k ≠ Text.trim entry.uid → m.devices.get? k = n.devices.get? k := by
      intro k hk
      obtain ⟨-, rfl⟩ | ⟨-, rfl, -⟩ := addDevice_cases hadd
      · rfl
      · rw [Roster.get?_put, if_neg hk]
    refine .inr ⟨_, ensures d (completes d), fun k => ?_⟩
    rw [put, Roster.get?_put, uid, trimmed]
    split
    · rfl
    · next hk => exact others k hk

end Network

/-! ## Documents -/

namespace Schema

open Reading

/-- What becomes of the VLAN table of a device.  Every key is a VLAN id.  The device has the VLANs
of the keys and VLAN 1, each by the last of its names.  So each entry is found by its own name
exactly if no two entries give one VLAN different names. -/
structure DeviceDoc.NamesVlans (d : DeviceDoc) (vlans : Index Int Value) : Prop where
  numbers : ∀ e ∈ d.vlans, ∃ vlan, readNumeral e.1 = .ok vlan ∧ minVlan ≤ vlan ∧ vlan ≤ maxVlan
  names : ∀ vlan, vlans.get? vlan = ((lastName vlan d.vlans).map Value.text).or
    (if vlan = 1 then some (.text firstVlanName) else none)
  others : ∀ vlan, vlans.contains vlan = true ↔
    vlan = 1 ∨ ∃ e ∈ d.vlans, readNumeral e.1 = .ok vlan
  kept : (∀ e ∈ d.vlans, ∀ vlan, readNumeral e.1 = .ok vlan →
      vlans.get? vlan = some (.text e.2)) ↔
    ∀ e ∈ d.vlans, ∀ f ∈ d.vlans, readNumeral e.1 = readNumeral f.1 → e.2 = f.2

namespace DeviceDoc

variable {d : DeviceDoc} {vlans : Index Int Value}

/-- A table that has the last of the names of each VLAN has everything that is said of it. -/
theorem namesVlans_of_names (readable : d.Readable) (valid : d.Valid)
    (names : ∀ vlan, vlans.get? vlan = ((lastName vlan d.vlans).map Value.text).or
      (if vlan = 1 then some (.text firstVlanName) else none)) : d.NamesVlans vlans where
  numbers := by
    intro e he
    obtain ⟨vlan, read⟩ := readable.vlans e he
    exact ⟨vlan, read, valid.vlans e he vlan read⟩
  names := names
  others := by
    intro vlan
    rw [Index.contains_iff, names]
    constructor
    · rintro ⟨x, hx⟩
      rw [Option.or_eq_some_iff, Option.map_eq_some_iff] at hx
      obtain ⟨name, named, -⟩ | ⟨-, first⟩ := hx
      · obtain ⟨e, he, read, -⟩ := exists_of_lastName named
        exact .inr ⟨e, he, read⟩
      · rw [Option.ite_none_right_eq_some] at first
        exact .inl first.1
    · rintro (rfl | ⟨e, he, read⟩)
      · cases lastName 1 d.vlans with
        | none => exact ⟨_, rfl⟩
        | some name => exact ⟨_, rfl⟩
      · obtain ⟨name, named⟩ := exists_lastName he read
        exact ⟨.text name, by rw [named]; rfl⟩
  kept := by
    have found : ∀ e ∈ d.vlans, ∀ vlan, readNumeral e.1 = .ok vlan →
        ∃ f ∈ d.vlans, readNumeral f.1 = .ok vlan ∧ vlans.get? vlan = some (.text f.2) := by
      intro e he vlan read
      obtain ⟨name, named⟩ := exists_lastName he read
      obtain ⟨f, hf, readf, rfl⟩ := exists_of_lastName named
      exact ⟨f, hf, readf, by rw [names, named]; rfl⟩
    constructor
    · intro kept e he f hf same
      obtain ⟨vlan, read⟩ := readable.vlans e he
      have own := kept e he vlan read
      rw [kept f hf vlan (same.symm.trans read)] at own
      exact (Value.text.inj (Option.some.inj own)).symm
    · intro alike e he vlan read
      obtain ⟨f, hf, readf, name⟩ := found e he vlan read
      rw [name, alike e he f hf (read.trans readf.symm)]

/-- The VLAN table of a device that was read from the settings of a document. -/
theorem ensures_namesVlans (readable : d.Readable) (valid : d.Valid) :
    Ensures (fun x => d.NamesVlans x.vlans) (Device.read (Index.ofList d.settings).entries) := by
  refine Device.ensures_vlans_read (P := d.NamesVlans)
    (field_settings (v := .object (d.vlans.map fun e => (e.1, .text e.2))) (by simp [settings]))
    fun t read => namesVlans_of_names readable valid fun vlan => ?_
  have own : ∀ vlan, t.get? vlan = (lastName vlan d.vlans).map Value.text := fun vlan => by
    rw [get?_readVlans read, Index.get?_empty, Option.or_none]
  rw [Index.get?_putNew, own, own]
  split
  · next first =>
    rw [first]
    cases lastName 1 d.vlans <;> rfl
  · exact Option.or_none.symm

end DeviceDoc

/-- In the network of a document whose device ids are trimmed, every device has the VLANs that its
own entry names. -/
theorem namesVlans_load {doc : Value} {t : TopologyDoc} {n : Network}
    (accepted : topologyDoc doc = .ok t) (hn : load doc = .ok n)
    (trimmed : ∀ d ∈ t.devices, Text.trim d.id = d.id) {d : DeviceDoc} (hd : d ∈ t.devices) :
    ∃ x, n.devices.get? d.id = some x ∧ d.NamesVlans x.vlans := by
  have readable := readable_topologyDoc accepted
  have valid := valid_topologyDoc accepted
  have sound := (load_iff_sound accepted).1 ⟨n, hn⟩
  -- a device is read once, since no other one has its id
  let Named (n : Network) : Prop :=
    n.Proper ∧ ∀ d ∈ t.devices, ∀ x, n.devices.get? d.id = some x → d.NamesVlans x.vlans
  have start : Named Network.empty := ⟨Network.proper_empty, fun d _ x hx => by cases hx⟩
  have named : Named n := by
    obtain ⟨t', accepted', -, hn⟩ := load_eq_ok.1 hn
    obtain rfl := Checked.ok.inj (accepted.symm.trans accepted')
    have imported := Network.keeps_importDocument (P := Named) Network.empty t.toDocument_eq
      t.records_devices t.records_links start (fun r hr => ?_) fun r _ reserved => ?_
    · rwa [Network.ofDocument_eq_ok.1 hn] at imported
    · obtain ⟨own, hown, rfl⟩ := List.mem_map.1 hr
      rintro m ⟨proper, named⟩
      refine ⟨Network.keeps_readDevice _ m proper, fun d hd x hx => ?_⟩
      obtain same | ⟨y, hy, put⟩ := Network.get?_readDevice proper own.ofFields_settings
        (Device.completes_read (DeviceDoc.complete_settings (readable own hown)))
        (DeviceDoc.ensures_namesVlans (readable own hown) (valid own hown))
      · rw [same] at hx
        exact named d hd x hx
      · rw [put, trimmed own hown] at hx
        split at hx
        · next id =>
          obtain rfl := Option.some.inj hx
          obtain rfl : d = own := List.inj_on_of_nodup_map sound.deviceIds hd hown id
          exact hy
        · exact named d hd x hx
    · refine Network.keeps_readLink reserved r (fun m hm => ⟨hm.1.congr rfl, hm.2⟩) ?_
      rintro m _ _ _ _ m' _ _ _ ⟨proper, named⟩ hadd
      refine ⟨proper.congr (Network.devices_addLink hadd), ?_⟩
      rwa [Network.devices_addLink hadd]
  obtain ⟨x, hx⟩ := Roster.contains_iff.1
    (((describes_load accepted hn).devices d.id).2 ⟨d, hd, (trimmed d hd).symm⟩)
  exact ⟨x, hx, named.2 d hd x hx⟩

end Schema

/-! ## Answers -/

namespace Service

open Schema

variable {doc : Value}

/-- What a document that is in order makes of its VLAN tables, if its device ids are trimmed. -/
theorem vlans_of_ok (ok : (validate doc).part? "ok" = some (.bool true)) :
    ∃ t n, topologyDoc doc = .ok t ∧ load doc = .ok n ∧
      ((∀ d ∈ t.devices, Text.trim d.id = d.id) →
        ∀ d ∈ t.devices, ∃ x, n.devices.get? d.id = some x ∧ d.NamesVlans x.vlans) := by
  obtain ⟨t, accepted, sound⟩ := sound_of_ok ok
  obtain ⟨n, hn⟩ := (load_iff_sound accepted).2 sound
  exact ⟨t, n, accepted, hn, fun trimmed d hd => namesVlans_load accepted hn trimmed hd⟩

/-- A switch whose VLAN 10 is named twice.  The name that is given with a zero in front is lost. -/
theorem vlans_of_ok_zeros :
    let doc : Value := .object
      [("devices", .list
        [.object [("id", .text "sw1"), ("kind", .text "SWITCH_L2"),
          ("vlanTable", .object [("010", .text "OFFICE"), ("10", .text "LAB")])]]),
       ("links", .list [])]
    (validate doc).part? "ok" = some (.bool true) ∧
      ∃ t n d x, topologyDoc doc = .ok t ∧ load doc = .ok n ∧ d ∈ t.devices ∧
        n.devices.get? d.id = some x ∧ d.NamesVlans x.vlans ∧ ("010", "OFFICE") ∈ d.vlans ∧
        readNumeral "010" = .ok 10 ∧ x.vlans.get? 10 = some (.text "LAB") := by
  intro doc
  have ok : (validate doc).part? "ok" = some (.bool true) := by decide +kernel
  obtain ⟨t, n, accepted, hn, named⟩ := vlans_of_ok ok
  obtain rfl := Checked.ok.inj (Eq.trans (Eq.symm accepted) rfl)
  obtain ⟨x, hx, names⟩ := named (by decide +kernel) _ (List.mem_cons_self ..)
  have lab : x.vlans.get? 10 = some (.text "LAB") := by
    rw [names.names]
    decide +kernel
  exact ⟨ok, _, n, _, x, accepted, hn, List.mem_cons_self .., hx, names, by decide,
    by decide +kernel, lab⟩

end Service

end NetLab
