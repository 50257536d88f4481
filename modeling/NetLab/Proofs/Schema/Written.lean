import NetLab.Proofs.Schema.Load

set_option autoImplicit false

/-!
# Written networks fit the schema

The document of a storable and typed network is accepted by a strict reading, which finds in it
exactly what is written, and if no link of the network is a loop, its references hold together.  So
it can be loaded again.  As in the lenient reading there is one statement for each part, from
interfaces to the whole.
-/

namespace NetLab

theorem Value.IsTextOrNull.eq_ofText? {v : Value} (h : v.IsTextOrNull) : ∃ s, v = .ofText? s := by
  cases h with
  | null => exact ⟨none, rfl⟩
  | text s => exact ⟨some s, rfl⟩

theorem PortMode.eq_of_isLegal {m : PortMode} (h : m.isLegal = true) :
    ∃ s, m.value = .text s ∧ Schema.pickMode s = some m := by
  cases m with
  | other v => cases h
  | access => exact ⟨"access", rfl, rfl⟩
  | trunk => exact ⟨"trunk", rfl, rfl⟩
  | dynamic => exact ⟨"dynamic", rfl, rfl⟩

namespace Schema

open Checked

variable {fs : List (String × Value)} {name : String}

/-! ## Fields -/

/-- A field that is found among the settings of a record, as the value that it is known to be. -/
theorem field?_of_find {es : List (String × Value)}
    (find : ∀ name, Value.field? name fs = Index.find name es) (name : String) {v w : Value}
    (h : v = w) (hv : Index.find name es = some v) : Value.field? name fs = some w :=
  (find name).trans (h ▸ hv)

theorem field?_ofText? {s : Option String} (h : Value.field? name fs = some (.ofText? s)) :
    field? name text fs = .ok s :=
  defaulted_of_field? h (optional_text_ofText? s)

theorem field?_ofInt? {n : Option Int} (h : Value.field? name fs = some (.ofInt? n)) :
    field? name integer fs = .ok n := by
  refine defaulted_of_field? h ?_
  cases n <;> rfl

theorem defaulted_bool {b d : Bool} (h : Value.field? name fs = some (.bool b)) :
    defaulted name d boolean fs = .ok b :=
  defaulted_of_field? h rfl

theorem defaulted_vlanId_int {vlan d : Int} (h : Value.field? name fs = some (.int vlan))
    (low : minVlan ≤ vlan) (high : vlan ≤ maxVlan) : defaulted name d vlanId fs = .ok vlan :=
  defaulted_of_field? h (integerWithin_int low high)

/-! ## Interfaces and lines -/

/-- The settings of an interface are accepted, and nothing else is found in them. -/
theorem interfaceDoc_toDocument {i : Interface} (hs : i.Storable) (ht : i.Typed) :
    ∃ x, interfaceDoc i.toDocument = .ok x ∧ x.toDocument = i.toDocument := by
  obtain ⟨description, hdescription⟩ := ht.description.eq_ofText?
  obtain ⟨ip, hip⟩ := ht.ip.eq_ofText?
  obtain ⟨mask, hmask⟩ := ht.mask.eq_ofText?
  obtain ⟨down, hdown⟩ := hs.shutdown
  obtain ⟨mode, hmode, picked⟩ := PortMode.eq_of_isLegal hs.mode
  obtain ⟨trunk, htrunk, -⟩ := hs.trunkAllowed
  obtain ⟨access, haccess⟩ := hs.accessVlan
  obtain ⟨native, hnative⟩ := hs.nativeVlan
  obtain ⟨accessLow, accessHigh⟩ : minVlan ≤ access ∧ access ≤ maxVlan := by
    have vlan := ht.accessVlan
    rw [haccess] at vlan
    cases vlan with | int low high => exact ⟨low, high⟩
  obtain ⟨nativeLow, nativeHigh⟩ : minVlan ≤ native ∧ native ≤ maxVlan := by
    have vlan := ht.nativeVlan
    rw [hnative] at vlan
    cases vlan with | int low high => exact ⟨low, high⟩
  refine ⟨⟨description, ip, mask, down, i.mode, access, trunk, native⟩, ?_, ?_⟩
  · rw [Interface.toDocument_eq]
    refine model_record (by simp [Interface.settings]) (by simp [Interface.settings])
      fun fs find => ?_
    have field := @field?_of_find _ _ find
    rw [field?_ofText? (field "description" hdescription rfl),
      field?_ofText? (field "ip" hip rfl),
      field?_ofText? (field "mask" hmask rfl),
      defaulted_bool (field "shutdown" hdown rfl),
      defaulted_of_field? (field "switchportMode" hmode rfl) (oneOf_eq_ok.2 ⟨mode, rfl, picked⟩),
      defaulted_vlanId_int (field "accessVlan" haccess rfl) accessLow accessHigh,
      defaulted_of_field? (field "trunkAllowedVlans" htrunk rfl) (text_eq_ok.2 rfl),
      defaulted_vlanId_int (field "nativeVlan" hnative rfl) nativeLow nativeHigh]
    rfl
  · rw [InterfaceDoc.toDocument, Interface.toDocument, hdescription, hip, hmask, hdown, haccess,
      htrunk, hnative]

theorem lineDoc_toDocument {l : Line} (login : ∃ required, l.login = .bool required)
    (password : l.password.IsTextOrNull) :
    ∃ x, lineDoc l.toDocument = .ok x ∧ x.toDocument = l.toDocument := by
  obtain ⟨required, hlogin⟩ := login
  obtain ⟨word, hword⟩ := password.eq_ofText?
  refine ⟨⟨word, required⟩, ?_, ?_⟩
  · change lineDoc (.object (Index.ofList l.settings).entries) = _
    refine model_record (by simp [Line.settings]) (by simp [Line.settings]) fun fs find => ?_
    have field := @field?_of_find _ _ find
    rw [field?_ofText? (field "password" hword rfl), defaulted_bool (field "login" hlogin rfl)]
    rfl
  · rw [LineDoc.toDocument, Line.toDocument, hlogin, hword]

/-- Two terminal lines are accepted. -/
theorem lineTable_toDocument {d : Device} (hs : d.Storable) (ht : d.Typed) :
    ∃ x, lineTable (.record (d.lines.toList.map fun e => (e.1.name, e.2.toDocument))) = .ok x ∧
      .object (x.map fun e => (e.1.name, e.2.toDocument)) =
        Value.record (d.lines.toList.map fun e => (e.1.name, e.2.toDocument)) := by
  obtain ⟨a, ha, loginA⟩ := hs.lines .console
  obtain ⟨b, hb, loginB⟩ := hs.lines .vty
  obtain ⟨x, hx, sameX⟩ := lineDoc_toDocument loginA (ht.passwords _ a ha)
  obtain ⟨y, hy, sameY⟩ := lineDoc_toDocument loginB (ht.passwords _ b hb)
  rw [Lines.record_toList ha hb]
  refine ⟨[(.console, x), (.vty, y)], ?_, ?_⟩
  · simp [lineTable, all, map, Checked.and, under, hx, hy, oneOf, LineName.ofName?]
  · simp [sameX, sameY, LineName.name]

/-! ## VLAN and interface tables -/

/-- The text of a VLAN id is one. -/
theorem vlanKeyFault_toString {vlan : Int} (low : minVlan ≤ vlan) (high : vlan ≤ maxVlan) :
    vlanKeyFault (toString vlan) = none := by
  have read := readNumeral_toString (isShort_of_range low high)
  have digits : toString vlan = vlan.toNat.repr := by
    rw [Int.toString_eq_repr, Int.repr_eq_if, if_pos (by rw [minVlan] at low; omega)]
  have all : (toString vlan).toList.all Text.isDigitLike = true := by
    rw [digits, Nat.toList_repr, List.all_eq_true]
    intro c hc
    have hdigit := Nat.isDigit_of_mem_toDigits (by decide) (by decide) hc
    rw [Text.isDigitLike, Text.isDigit, Text.digitValue?_of_isDigit hdigit]
    rfl
  have named : toString vlan ≠ "" := by
    rw [digits]
    exact Nat.repr_ne_empty
  generalize toString vlan = key at read all named
  rw [vlanKeyFault, all, read]
  simp [named, low, high]

/-- A VLAN table is accepted. -/
theorem vlanTable_toDocument {t : Index Int Value} (hs : StorableVlans t) (ht : TypedVlans t) :
    ∃ x, vlanTable (vlanDocument t) = .ok x ∧
      .object (x.map fun e => (e.1, .text e.2)) = vlanDocument t := by
  -- the table lists the VLANs of the index, though not in the order of their numbers
  have listed : ∀ f ∈ (Index.ofList (t.entries.map Device.vlanEntry)).entries,
      ∃ p ∈ t.entries, f = Device.vlanEntry p := by
    intro f hf
    obtain ⟨p, hp, rfl⟩ := List.mem_map.1 (Index.mem_of_mem_ofList hf)
    exact ⟨p, hp, rfl⟩
  have accepted : ∀ f ∈ (Index.ofList (t.entries.map Device.vlanEntry)).entries,
      ∃ s, text f.2 = .ok s ∧ Value.text s = f.2 := by
    intro f hf
    obtain ⟨p, hp, rfl⟩ := listed f hf
    obtain ⟨-, s, hs⟩ := hs p.1 p.2 (Index.get?_eq_some_iff.2 hp)
    exact ⟨s, text_eq_ok.2 hs, hs.symm⟩
  obtain ⟨x, hx, same⟩ := exists_tableOf accepted
  have known : x.findSome? (fun e => vlanKeyFault e.1) = none := by
    refine List.findSome?_eq_none_iff.2 fun e he => ?_
    have hmem : (e.1, Value.text e.2) ∈ (Index.ofList (t.entries.map Device.vlanEntry)).entries := by
      rw [← same]
      exact List.mem_map.2 ⟨e, he, rfl⟩
    obtain ⟨p, hp, heq⟩ := listed _ hmem
    obtain ⟨low, high⟩ := ht p.1 p.2 (Index.get?_eq_some_iff.2 hp)
    rw [show e.1 = toString p.1 from congrArg Prod.fst heq]
    exact vlanKeyFault_toString low high
  refine ⟨x, ?_, congrArg Value.object same⟩
  change (tableOf text (.object (Index.ofList (t.entries.map Device.vlanEntry)).entries)).andThen
    _ = _
  rw [hx, andThen, known]

/-- An interface table is accepted. -/
theorem interfaceTable_toDocument {d : Device} (hs : d.Storable) (ht : d.Typed) :
    ∃ x, tableOf interfaceDoc (interfaceDocument d.interfaces) = .ok x ∧
      .object (x.map fun e => (e.1, e.2.toDocument)) = interfaceDocument d.interfaces := by
  have accepted : ∀ f ∈ (Index.ofList (d.interfaces.values.map Device.interfaceEntry)).entries,
      ∃ x, interfaceDoc f.2 = .ok x ∧ x.toDocument = f.2 := by
    intro f hf
    obtain ⟨i, hi, rfl⟩ := List.mem_map.1 (Index.mem_of_mem_ofList hf)
    obtain ⟨k, hk⟩ := Roster.mem_values_iff.1 hi
    exact interfaceDoc_toDocument (hs.interfaces k i hk) (ht.interfaces k i hk)
  obtain ⟨x, hx, same⟩ := exists_tableOf accepted
  exact ⟨x, hx, congrArg Value.object same⟩

/-! ## Devices and links -/

theorem deviceKind_name (k : Kind) : deviceKind (.text k.name) = .ok k := by
  cases k <;> rfl

theorem ofName?_name (x : Status) : Status.ofName? x.name = some x := by
  cases x <;> rfl

/-- A device is accepted, under its id. -/
theorem deviceDoc_toDocument {d : Device} {uid : String} (hp : d.Proper uid) (hs : d.Storable)
    (ht : d.Typed) :
    ∃ x, deviceDoc d.toDocument = .ok x ∧ x.toDocument = d.toDocument ∧ x.id = d.uid := by
  obtain ⟨label, hlabel⟩ := ht.label
  obtain ⟨address, haddress⟩ := ht.address.eq_ofText?
  obtain ⟨hostname, hhostname, -⟩ := hs.hostname
  obtain ⟨domainName, hdomainName⟩ := ht.domainName.eq_ofText?
  obtain ⟨tag, htag⟩ : ∃ tag, d.displayVlan = .ofInt? tag := by
    rcases hs.displayVlan with h | ⟨vlan, h⟩
    · exact ⟨none, h⟩
    · exact ⟨some vlan, h⟩
  obtain ⟨vlans, hvlans, sameVlans⟩ := vlanTable_toDocument hs.vlans ht.vlans
  obtain ⟨interfaces, hinterfaces, sameInterfaces⟩ := interfaceTable_toDocument hs ht
  obtain ⟨lines, hlines, sameLines⟩ := lineTable_toDocument hs ht
  have named : d.uid ≠ "" := by
    rw [hp.uid]
    exact hp.named
  refine ⟨⟨d.uid, d.kind, some label, d.status, address, some hostname, domainName, d.routing, tag,
    vlans, interfaces, lines⟩, ?_, ?_, rfl⟩
  · change deviceDoc (.object (Index.ofList d.settings).entries) = _
    refine model_record (by simp [Device.settings]) (by simp [Device.settings]) fun fs find => ?_
    have field := @field?_of_find _ _ find
    rw [required_eq_ok.2 ⟨_, field "id" rfl rfl, nonemptyText_eq_ok.2 ⟨rfl, named⟩⟩,
      required_eq_ok.2 ⟨_, field "kind" rfl rfl, deviceKind_name d.kind⟩,
      field?_ofText? (s := some label) (field "label" hlabel rfl),
      defaulted_of_field? (field "status" rfl rfl) (oneOf_eq_ok.2 ⟨_, rfl, ofName?_name d.status⟩),
      field?_ofText? (field "managementIp" haddress rfl),
      field?_ofText? (s := some hostname) (field "hostname" hhostname rfl),
      field?_ofText? (field "domainName" hdomainName rfl),
      defaulted_bool (field "ipRouting" rfl rfl),
      field?_ofInt? (field "displayVlanTag" htag rfl),
      defaulted_of_field? (field "vlanTable" rfl rfl) hvlans,
      defaulted_of_field? (field "interfaceTable" rfl rfl) hinterfaces,
      defaulted_of_field? (field "lines" rfl rfl) hlines]
    rfl
  · rw [DeviceDoc.toDocument, Device.toDocument, sameVlans, sameInterfaces, sameLines, hlabel,
      haddress, hhostname, hdomainName, htag]
    rfl

/-- A link with an id is accepted as it is. -/
theorem linkDoc_toDocument {l : Link String} {id : String} (hid : l.id = .text id) :
    linkDoc l.toDocument = .ok ⟨some id, l.source, l.target⟩ := by
  change linkDoc (.object (Index.ofList l.settings).entries) = _
  refine model_record (by simp [Link.settings]) (by simp [Link.settings]) fun fs find => ?_
  have field := @field?_of_find _ _ find
  rw [field?_ofText? (s := some id) (field "id" hid rfl),
    required_eq_ok.2 ⟨_, field "sourceId" rfl rfl, text_eq_ok.2 rfl⟩,
    required_eq_ok.2 ⟨_, field "targetId" rfl rfl, text_eq_ok.2 rfl⟩]
  rfl

/-! ## Topologies -/

/-- How a device and a link stand in a strict reading of the network that they are part of. -/
structure ReadsDevice (d : Device) (x : DeviceDoc) : Prop where
  read : deviceDoc d.toDocument = .ok x
  back : x.toDocument = d.toDocument
  id : x.id = d.uid

/-- The link stands in a strict reading as it is. -/
structure ReadsLink (l : Link String) (x : LinkDoc) : Prop where
  id : ∃ id, l.id = .text id ∧ x.id = some id
  source : x.source = l.source
  target : x.target = l.target

theorem ReadsLink.read {l : Link String} {x : LinkDoc} (h : ReadsLink l x) :
    linkDoc l.toDocument = .ok x ∧ x.toDocument = l.toDocument := by
  obtain ⟨id, hid, hx⟩ := h.id
  obtain ⟨xid, source, target⟩ := x
  obtain rfl : xid = some id := hx
  obtain rfl : source = l.source := h.source
  obtain rfl : target = l.target := h.target
  refine ⟨linkDoc_toDocument hid, ?_⟩
  rw [LinkDoc.toDocument, Link.toDocument, hid]
  rfl

/-- A network is accepted with its devices and its links, each as it is. -/
theorem topologyDoc_toDocument {n : Network} (hs : n.Storable) (ht : n.Typed) :
    ∃ t, topologyDoc n.toDocument = .ok t ∧ t.toDocument = n.toDocument ∧
      List.Forall₂ ReadsDevice n.devices.values t.devices ∧
      List.Forall₂ ReadsLink n.links.values t.links := by
  have eachDevice : ∀ d ∈ n.devices.values, ∃ x, ReadsDevice d x := by
    intro d hd
    obtain ⟨uid, hget⟩ := Roster.mem_values_iff.1 hd
    obtain ⟨x, read, back, id⟩ :=
      deviceDoc_toDocument (hs.proper uid d hget) (hs.devices uid d hget) (ht uid d hget)
    exact ⟨x, read, back, id⟩
  have eachLink : ∀ l ∈ n.links.values, ∃ x, ReadsLink l x := by
    intro l hl
    obtain ⟨k, hget⟩ := Roster.mem_values_iff.1 hl
    obtain ⟨-, ⟨id, hid, -⟩, -, -⟩ := hs.links k l hget
    exact ⟨⟨some id, l.source, l.target⟩, ⟨id, hid, rfl⟩, rfl, rfl⟩
  obtain ⟨devices, hdevices⟩ := exists_forall₂ eachDevice
  obtain ⟨links, hlinks⟩ := exists_forall₂ eachLink
  have readDevices : listOf deviceDoc (.list (n.devices.values.map Device.toDocument)) =
      .ok devices := by
    rw [listOf_eq_ok, List.forall₂_map_left_iff]
    exact hdevices.imp fun _ _ h => h.read
  have readLinks : listOf linkDoc (.list (n.links.values.map Link.toDocument)) = .ok links := by
    rw [listOf_eq_ok, List.forall₂_map_left_iff]
    exact hlinks.imp fun _ _ h => h.read.1
  refine ⟨⟨devices, links⟩, ?_, ?_, hdevices, hlinks⟩
  · let parts : List (String × Value) := [("devices", .list (n.devices.values.map Device.toDocument)),
      ("links", .list (n.links.values.map Link.toDocument))]
    change topologyDoc (.object (Index.ofList parts).entries) = _
    refine model_record (by simp [parts]) (by simp [parts]) fun fs find => ?_
    have field := @field?_of_find _ _ find
    rw [defaulted_of_field? (field "devices" rfl rfl) readDevices,
      defaulted_of_field? (field "links" rfl rfl) readLinks]
    rfl
  · have sameDevices : devices.map DeviceDoc.toDocument =
        n.devices.values.map Device.toDocument :=
      map_eq_map_of_forall₂ hdevices fun _ _ h => h.back
    have sameLinks : links.map LinkDoc.toDocument = n.links.values.map Link.toDocument :=
      map_eq_map_of_forall₂ hlinks fun _ _ h => h.read.2
    rw [TopologyDoc.toDocument, Network.toDocument, sameDevices, sameLinks]

/-! ## References -/

/-- The references of a network without loops hold together in a strict reading of it. -/
theorem referenceProblems_of_reads {n : Network} (hs : n.Storable) (hl : n.Loopless)
    {t : TopologyDoc} (devices : List.Forall₂ ReadsDevice n.devices.values t.devices)
    (links : List.Forall₂ ReadsLink n.links.values t.links) : t.referenceProblems = [] := by
  have ids : t.devices.map (·.id) = n.devices.keys := by
    have uids : t.devices.map (·.id) = n.devices.values.map Device.uid :=
      map_eq_map_of_forall₂ devices fun _ _ h => h.id
    rw [uids, hs.proper.map_uid]
  have ends : ∀ x ∈ t.links, x.source ∈ n.devices.keys ∧ x.target ∈ n.devices.keys ∧
      x.source ≠ x.target := by
    intro x hx
    obtain ⟨l, hmem, reads⟩ := exists_of_forall₂ links hx
    obtain ⟨k, hget⟩ := Roster.mem_values_iff.1 hmem
    obtain ⟨-, -, source, target⟩ := hs.links k l hget
    rw [reads.source, reads.target]
    exact ⟨Roster.mem_keys_iff.2 (Roster.contains_iff.1 source),
      Roster.mem_keys_iff.2 (Roster.contains_iff.1 target), hl k l hget⟩
  have different : (t.links.filterMap (·.id)).Nodup := by
    have keys : (t.links.filterMap (·.id)).map Value.text = n.links.keys := by
      have linkIds : (t.links.filterMap (·.id)).map Value.text = n.links.values.map Link.id := by
        generalize n.links.values = ls, t.links = xs at links
        induction links with
        | nil => rfl
        | cons h _ ih =>
          obtain ⟨id, hid, hx⟩ := h.id
          rw [List.filterMap_cons_some hx, List.map_cons, ih, List.map_cons, hid]
      rw [linkIds, Roster.values, Roster.keys, List.map_map]
      refine List.map_congr_left fun e he => ?_
      exact (hs.links e.1 e.2 (Roster.get?_eq_some_iff.2 he)).1.symm
    refine List.Nodup.of_map Value.text ?_
    rw [keys]
    exact n.links.nodup
  rw [TopologyDoc.referenceProblems_eq_nil_iff, ids]
  exact ⟨n.devices.nodup, different, ends⟩

/-- The document of a network without loops can be loaded again. -/
theorem exists_load_toDocument {n : Network} (hs : n.Storable) (ht : n.Typed) (hl : n.Loopless) :
    ∃ t m, topologyDoc n.toDocument = .ok t ∧ t.toDocument = n.toDocument ∧
      t.referenceProblems = [] ∧ Network.ofDocument n.toDocument = .ok m := by
  obtain ⟨t, accepted, back, devices, links⟩ := topologyDoc_toDocument hs ht
  obtain ⟨m, hm, -⟩ := hs.ofDocument_toDocument
  exact ⟨t, m, accepted, back, referenceProblems_of_reads hs hl devices links, hm⟩

end Schema

end NetLab
