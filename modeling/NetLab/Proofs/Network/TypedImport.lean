import NetLab.Proofs.Network.Imported
import NetLab.Proofs.Network.Typed

set_option autoImplicit false

/-!
# Typed documents describe typed networks

A record of settings is typed if what it holds where texts belong is a text or nothing, and if its
VLAN ids are in their range (`Fields.TypedDevice`).  Reading typed records keeps a network typed,
whatever was read before them, and also if two records describe one device.
-/

namespace NetLab

open Reading

/-! ## Typed records -/

/-- The record of an interface is typed. -/
structure Fields.TypedInterface (fs : Fields) : Prop where
  description : (Value.field "description" fs).IsTextOrNull
  ip : (Value.field "ip" fs).IsTextOrNull
  mask : (Value.field "mask" fs).IsTextOrNull
  accessVlan : ∀ v, Value.field? "accessVlan" fs = some v → v.IsVlan
  nativeVlan : ∀ v, Value.field? "nativeVlan" fs = some v → v.IsVlan

/-- The record of a device is typed. -/
structure Fields.TypedDevice (fs : Fields) : Prop where
  label : fs.hasTextLabel = true
  address : (Value.field "managementIp" fs).IsTextOrNull
  domainName : (Value.field "domainName" fs).IsTextOrNull
  vlans : ∀ es, Value.field "vlanTable" fs = .object es → ∀ e ∈ es, ∀ vlan,
    readNumeral e.1 = .ok vlan → minVlan ≤ vlan ∧ vlan ≤ maxVlan
  interfaces : ∀ es, Value.field "interfaceTable" fs = .object es → ∀ e ∈ es, ∀ is,
    e.2 = .object is → Fields.TypedInterface is
  passwords : ∀ es, Value.field "lines" fs = .object es → ∀ e ∈ es, ∀ ls,
    e.2 = .object ls → (Value.field "password" ls).IsTextOrNull

/-! ## Interfaces and devices -/

theorem Fields.isVlan_intOr {fs : Fields} {name : String} {set v : Value}
    (given : ∀ v, Value.field? name fs = some v → v.IsVlan) (hset : set.IsVlan)
    (h : fs.intOr name set = .ok v) : v.IsVlan := by
  have whole : ∀ {w : Value}, w.IsVlan → w.toInt.map Value.int = .ok v → v.IsVlan := by
    rintro _ ⟨low, high⟩ hw
    cases hw
    exact .int low high
  rw [intOr] at h
  cases hv : Value.field? name fs with
  | none =>
    rw [hv] at h
    exact whole hset h
  | some w =>
    rw [hv] at h
    exact whole (given w hv) h

/-- Reading a typed record leaves an interface typed. -/
theorem Interface.typed_read {fs : Fields} (hfs : fs.TypedInterface) :
    Keeps Interface.Typed (Interface.read fs) := by
  refine keeps_bind (keeps_modify fun i hi => ?_) fun _ _ _ => ?_
  · exact ⟨hi.name, hfs.description, hfs.ip, hfs.mask, hi.accessVlan, hi.nativeVlan⟩
  refine keeps_get_bind fun i hi => keeps_bind (keeps_lift _) (fun vlan s hvlan => ?_) i hi
  have access : vlan.IsVlan := Fields.isVlan_intOr hfs.accessVlan hi.accessVlan hvlan
  refine keeps_bind (keeps_modify fun i hi => ?_) fun _ _ _ => ?_
  · exact ⟨hi.name, hi.description, hi.ip, hi.mask, access, hi.nativeVlan⟩
  refine keeps_bind (keeps_modify fun i hi => ?_) fun _ _ _ => ?_
  · exact ⟨hi.name, hi.description, hi.ip, hi.mask, hi.accessVlan, hi.nativeVlan⟩
  refine keeps_get_bind fun i hi => keeps_bind (keeps_lift _) (fun vlan s hvlan => ?_) i hi
  have native : vlan.IsVlan := Fields.isVlan_intOr hfs.nativeVlan hi.nativeVlan hvlan
  exact keeps_modify fun i hi =>
    ⟨hi.name, hi.description, hi.ip, hi.mask, hi.accessVlan, native⟩

namespace Device

theorem typed_readVlans {fs : Fields} {t t' : Index Int Value}
    (hfs : ∀ e ∈ fs, ∀ vlan, readNumeral e.1 = .ok vlan → minVlan ≤ vlan ∧ vlan ≤ maxVlan)
    (h : readVlans fs t = .ok t') (ht : TypedVlans t) : TypedVlans t' := by
  induction fs generalizing t with
  | nil =>
    cases h
    exact ht
  | cons f fs ih =>
    obtain ⟨vlan, hvlan, h⟩ := bind_eq_ok_iff.1 h
    obtain ⟨low, high⟩ := hfs f (List.mem_cons_self ..) vlan hvlan
    exact ih (fun e he => hfs e (List.mem_cons_of_mem _ he)) h (ht.put low high)

theorem typed_readVlanTable {v : Value} (hv : ∀ es, v = .object es → ∀ e ∈ es, ∀ vlan,
    readNumeral e.1 = .ok vlan → minVlan ≤ vlan ∧ vlan ≤ maxVlan) :
    Keeps Typed (readVlanTable v) := by
  cases v with
  | object fs =>
    refine keeps_bind (keeps_lift _) fun t s ht => ?_
    have htable : TypedVlans t := typed_readVlans (hv fs rfl) ht fun v x hx => by cases hx
    exact keeps_modify fun d hd => hd.withVlans (htable.putNew _)
  | _ => exact keeps_modify fun d hd => hd.withVlans (hd.vlans.putNew _)

theorem typed_readInterfaces {fs : Fields}
    (hfs : ∀ e ∈ fs, ∀ is, e.2 = .object is → Fields.TypedInterface is) :
    Keeps Typed (readInterfaces fs) :=
  keeps_readInterfaces_of (fun _ hd => hd.interfaces) (fun _ _ hd hi => hd.putInterface hi _)
    fun e he settings record =>
      ⟨Interface.typed_new _, Interface.typed_read (hfs e he settings record)⟩

theorem typed_readLines {fs : Fields} {d : Device} (hd : d.Typed)
    (hfs : ∀ e ∈ fs, ∀ ls, e.2 = .object ls → (Value.field "password" ls).IsTextOrNull) :
    ({ d with lines := d.lines.read fs } : Device).Typed := by
  rw [Lines.read]
  generalize hlines : d.lines = lines
  have keep : ({ d with lines := lines } : Device).Typed := by
    rw [← hlines]
    exact hd
  clear hlines
  induction fs generalizing lines with
  | nil => exact keep
  | cons f fs ih =>
    rw [List.foldl_cons]
    refine ih (fun e he => hfs e (List.mem_cons_of_mem _ he)) _ ?_
    split
    · next ls _ hls => exact keep.setLine (hfs f (List.mem_cons_self ..) ls hls)
    · exact keep

/-- Reading a typed record leaves a device typed. -/
theorem typed_read {fs : Fields} (hfs : fs.TypedDevice) : Keeps Typed (Device.read fs) := by
  refine keeps_read_of (fun d hd => ?_) (fun d vlan hd _ => ?_) (typed_readVlanTable hfs.vlans)
    (fun es hes => typed_readInterfaces (hfs.interfaces es hes))
    fun ls hls _ hd => typed_readLines hd (hfs.passwords ls hls)
  · exact ⟨hd.label, hfs.address.ifGiven, hfs.domainName.ifGiven, hd.vlans, hd.interfaces,
      hd.passwords⟩
  · exact ⟨hd.label, hd.address, hd.domainName, hd.vlans, hd.interfaces, hd.passwords⟩

end Device

/-! ## Networks -/

namespace Network

/-- Reading a typed record of a device leaves a network typed. -/
theorem typed_readDevice {fs : Fields} (hfs : fs.TypedDevice) :
    Keeps (fun n => n.Proper ∧ n.Typed) (readDevice fs) := by
  rintro n ⟨hp, hn⟩
  refine ⟨keeps_readDevice fs n hp, ?_⟩
  obtain h | ⟨entry, d, m, hentry, hadd, h⟩ := readDevice_cases fs n
  · rwa [h]
  · obtain ⟨-, hget⟩ := hp.addDevice hadd
    have hm : m.Typed := by
      obtain ⟨rfl, -⟩ | ⟨-, rfl, kind, status, -, -, -, hd⟩ := addDevice_eq_ok hp hadd
      · exact hn
      · obtain ⟨label, hlabel⟩ := labelled_of_textLabel hfs.label hentry
        refine Roster.forall_put hn ?_
        rw [hd, (Entry.ofFields_eq_ok hentry).2]
        exact Device.Typed.new hlabel
    rw [h, hget, Option.getD_some]
    exact Roster.forall_put hm (Device.typed_read hfs d (hm _ _ hget))

/-- What a property of networks that devices and links keep, each as the document gives it, says of
the network that a document describes. -/
theorem keeps_importDocument {P : Network → Prop} (n : Network) {doc : Value} {fs : Fields}
    {devices links : List Fields} (hdoc : doc = .object fs)
    (hdevices : (Value.field "devices" fs).records = .ok devices)
    (hlinks : (Value.field "links" fs).records = .ok links) (start : P empty)
    (device : ∀ r ∈ devices, Keeps P (readDevice r))
    (link : ∀ r ∈ links, ∀ reserved, Keeps P (readLink reserved r)) :
    P (n.importDocument doc).2 := by
  rw [importDocument, read.eq_def, run_bind_of_ok (run_set n empty), hdoc]
  refine keeps_bind (keeps_lift _) (fun rs s hrs => ?_) empty start
  obtain rfl : devices = rs := Except.ok.inj (hdevices.symm.trans hrs)
  refine keeps_bind (keeps_readDevices device) fun _ _ _ => ?_
  refine keeps_bind (keeps_lift _) fun rs s hrs => ?_
  obtain rfl : links = rs := Except.ok.inj (hlinks.symm.trans hrs)
  exact keeps_readLinks fun r hr => link r hr _

/-- A document of typed records of devices describes a typed network. -/
theorem typed_importDocument (n : Network) {doc : Value} {fs : Fields}
    {devices links : List Fields} (hdoc : doc = .object fs)
    (hdevices : (Value.field "devices" fs).records = .ok devices)
    (hlinks : (Value.field "links" fs).records = .ok links)
    (typed : ∀ r ∈ devices, Fields.TypedDevice r) : (n.importDocument doc).2.Typed := by
  have start : empty.Proper ∧ empty.Typed := ⟨proper_empty, fun k d h => by cases h⟩
  refine (keeps_importDocument (P := fun n => n.Proper ∧ n.Typed) n hdoc hdevices hlinks start
    (fun r hr => typed_readDevice (typed r hr)) fun r _ reserved => ?_).2
  refine keeps_readLink reserved r (fun n hn => ⟨hn.1.congr rfl, hn.2⟩) ?_
  rintro n _ _ _ _ m _ _ _ ⟨hp, hn⟩ hadd
  refine ⟨hp.congr (devices_addLink hadd), ?_⟩
  rwa [Typed, devices_addLink hadd]

end Network

end NetLab
