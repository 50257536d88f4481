import NetLab.Proofs.Network.RoundTrip
import NetLab.Proofs.Network.TypedImport
import NetLab.Proofs.Schema.Accepted
import NetLab.Proofs.Schema.Reference

set_option autoImplicit false

/-!
# Networks that are loaded

The network that is loaded from a document that fits the schema and holds together is storable and
typed.  If there are no blanks around the ends of its links, no link of the network ends where it
starts: the references were checked before blanks were dropped.
-/

namespace NetLab.Schema

open Reading

/-! ## Records of accepted documents -/

/-- The settings of an interface as they are written back. -/
def InterfaceDoc.settings (i : InterfaceDoc) : Fields :=
  [("description", .ofText? i.description), ("ip", .ofText? i.ip), ("mask", .ofText? i.mask),
    ("shutdown", .bool i.shutdown), ("switchportMode", i.mode.value),
    ("accessVlan", .int i.accessVlan), ("trunkAllowedVlans", .text i.trunkAllowed),
    ("nativeVlan", .int i.nativeVlan)]

theorem InterfaceDoc.toDocument_eq (i : InterfaceDoc) :
    i.toDocument = .object (Index.ofList i.settings).entries := rfl

/-- The settings of a device as they are written back. -/
def DeviceDoc.settings (d : DeviceDoc) : Fields :=
  [("id", .text d.id), ("kind", .text d.kind.name), ("label", .ofText? d.label),
    ("status", .text d.status.name), ("managementIp", .ofText? d.address),
    ("hostname", .ofText? d.hostname), ("domainName", .ofText? d.domainName),
    ("ipRouting", .bool d.routing), ("displayVlanTag", .ofInt? d.displayVlan),
    ("vlanTable", .object (d.vlans.map fun e => (e.1, .text e.2))),
    ("interfaceTable", .object (d.interfaces.map fun e => (e.1, e.2.toDocument))),
    ("lines", .object (d.lines.map fun e => (e.1.name, e.2.toDocument)))]

theorem DeviceDoc.field_settings {d : DeviceDoc} {name : String} {v : Value}
    (h : (name, v) ∈ d.settings) : Value.field name (Index.ofList d.settings).entries = v :=
  Value.field_record (by simp [settings]) h

/-- The settings of a link as they are written back. -/
def LinkDoc.settings (l : LinkDoc) : Fields :=
  [("id", .ofText? l.id), ("sourceId", .text l.source), ("targetId", .text l.target)]

/-- A link has both of its ends. -/
theorem LinkDoc.required_ends (l : LinkDoc) :
    Fields.required "sourceId" (Index.ofList l.settings).entries = .ok (.text l.source) ∧
      Fields.required "targetId" (Index.ofList l.settings).entries = .ok (.text l.target) := by
  have different : (l.settings.map Prod.fst).Nodup := by simp [settings]
  exact ⟨Fields.required_record different (by simp [settings]),
    Fields.required_record different (by simp [settings])⟩

theorem typed_interfaceSettings {i : InterfaceDoc} (h : i.Valid) :
    Fields.TypedInterface (Index.ofList i.settings).entries := by
  have different : (i.settings.map Prod.fst).Nodup := by simp [InterfaceDoc.settings]
  have field : ∀ {name : String} {v : Value}, (name, v) ∈ i.settings →
      Value.field name (Index.ofList i.settings).entries = v := Value.field_record different
  have vlan : ∀ {name : String} {n : Int} {v : Value},
      Index.find name i.settings = some (.int n) → minVlan ≤ n ∧ n ≤ maxVlan →
      Value.field? name (Index.ofList i.settings).entries = some v → v.IsVlan := by
    intro name n v hn range hv
    rw [Value.field?_record different, hn] at hv
    obtain rfl := Option.some.inj hv
    exact .int range.1 range.2
  refine ⟨?_, ?_, ?_, fun v => vlan rfl h.accessVlan, fun v => vlan rfl h.nativeVlan⟩
  · rw [field (v := .ofText? i.description) (by simp [InterfaceDoc.settings])]
    exact .ofText? _
  · rw [field (v := .ofText? i.ip) (by simp [InterfaceDoc.settings])]
    exact .ofText? _
  · rw [field (v := .ofText? i.mask) (by simp [InterfaceDoc.settings])]
    exact .ofText? _

theorem typed_deviceSettings {d : DeviceDoc} (h : d.Valid) :
    Fields.TypedDevice (Index.ofList d.settings).entries := by
  have label : Value.field "label" (Index.ofList d.settings).entries = .ofText? d.label :=
    DeviceDoc.field_settings (by simp [DeviceDoc.settings])
  have address : Value.field "managementIp" (Index.ofList d.settings).entries =
      .ofText? d.address :=
    DeviceDoc.field_settings (by simp [DeviceDoc.settings])
  have domainName : Value.field "domainName" (Index.ofList d.settings).entries =
      .ofText? d.domainName :=
    DeviceDoc.field_settings (by simp [DeviceDoc.settings])
  have vlans : Value.field "vlanTable" (Index.ofList d.settings).entries =
      .object (d.vlans.map fun e => (e.1, .text e.2)) :=
    DeviceDoc.field_settings (by simp [DeviceDoc.settings])
  have interfaces : Value.field "interfaceTable" (Index.ofList d.settings).entries =
      .object (d.interfaces.map fun e => (e.1, e.2.toDocument)) :=
    DeviceDoc.field_settings (by simp [DeviceDoc.settings])
  have lines : Value.field "lines" (Index.ofList d.settings).entries =
      .object (d.lines.map fun e => (e.1.name, e.2.toDocument)) :=
    DeviceDoc.field_settings (by simp [DeviceDoc.settings])
  refine ⟨?_, ?_, ?_, fun es hes e he vlan hvlan => ?_, fun es hes e he is his => ?_,
    fun es hes e he ls hls => ?_⟩
  · rw [Fields.hasTextLabel_iff, label]
    cases d.label with
    | none => exact Or.inl rfl
    | some s => exact Or.inr ⟨s, rfl⟩
  · rw [address]
    exact .ofText? _
  · rw [domainName]
    exact .ofText? _
  · rw [vlans] at hes
    cases hes
    obtain ⟨x, hx, rfl⟩ := List.mem_map.1 he
    exact h.vlans x hx vlan hvlan
  · rw [interfaces] at hes
    cases hes
    obtain ⟨x, hx, rfl⟩ := List.mem_map.1 he
    rw [InterfaceDoc.toDocument_eq] at his
    cases his
    exact typed_interfaceSettings (h.interfaces x hx)
  · rw [lines] at hes
    cases hes
    obtain ⟨x, hx, rfl⟩ := List.mem_map.1 he
    cases hls
    have password : Value.field "password" (Index.ofList [("password", .ofText? x.2.password),
        ("login", .bool x.2.login)]).entries = .ofText? x.2.password :=
      Value.field_record (by simp) (List.mem_cons_self ..)
    rw [password]
    exact .ofText? _

/-! ## Documents of accepted documents -/

namespace TopologyDoc

variable {t : TopologyDoc}

/-- The parts of a document as they are written back. -/
def parts (t : TopologyDoc) : Fields :=
  [("devices", .list (t.devices.map DeviceDoc.toDocument)),
    ("links", .list (t.links.map LinkDoc.toDocument))]

theorem toDocument_eq (t : TopologyDoc) :
    t.toDocument = .object (Index.ofList t.parts).entries := rfl

theorem records_devices (t : TopologyDoc) :
    (Value.field "devices" (Index.ofList t.parts).entries).records =
      .ok (t.devices.map fun d => (Index.ofList d.settings).entries) := by
  have field : Value.field "devices" (Index.ofList t.parts).entries =
      .list (t.devices.map DeviceDoc.toDocument) :=
    Value.field_record (by simp [parts]) (by simp [parts])
  rw [field]
  exact Value.records_list_map _ _

theorem records_links (t : TopologyDoc) :
    (Value.field "links" (Index.ofList t.parts).entries).records =
      .ok (t.links.map fun l => (Index.ofList l.settings).entries) := by
  have field : Value.field "links" (Index.ofList t.parts).entries =
      .list (t.links.map LinkDoc.toDocument) :=
    Value.field_record (by simp [parts]) (by simp [parts])
  rw [field]
  exact Value.records_list_map _ _

/-- Labels of accepted documents are texts. -/
theorem hasTextLabels (valid : ∀ d ∈ t.devices, d.Valid) : t.toDocument.hasTextLabels = true := by
  rw [toDocument_eq, Value.hasTextLabels, records_devices]
  refine List.all_eq_true.2 fun r hr => ?_
  obtain ⟨d, hd, rfl⟩ := List.mem_map.1 hr
  exact (typed_deviceSettings (valid d hd)).label

/-- There are no blanks around the ends of links. -/
def HasTrimmedEnds (t : TopologyDoc) : Prop :=
  ∀ l ∈ t.links, Text.trim l.source = l.source ∧ Text.trim l.target = l.target

instance (t : TopologyDoc) : Decidable t.HasTrimmedEnds :=
  inferInstanceAs (Decidable (∀ l ∈ t.links, _))

end TopologyDoc

end NetLab.Schema

/-! ## Links of loaded networks -/

namespace NetLab.Network

open Reading

/-- No link ends where it starts. -/
def Loopless (n : Network) : Prop := ∀ k l, n.links.get? k = some l → l.source ≠ l.target

theorem Loopless.congr {n m : Network} (h : n.Loopless) (hl : m.links = n.links) :
    m.Loopless := by
  rwa [Loopless, hl]

theorem Loopless.addLink {n m : Network} {a b : String} {id given : Value} (hn : n.Loopless)
    (apart : Text.trim a ≠ Text.trim b) (hadd : n.addLink a b id = .ok (given, m)) :
    m.Loopless := by
  have put : ∀ (x : Network) (k : Value), x.links = n.links →
      (x.putLink ⟨k, Text.trim a, Text.trim b⟩).Loopless := by
    intro x k hx key l hl
    change (x.links.put k.plain _).get? key = some l at hl
    rw [Roster.get?_put] at hl
    split at hl
    · obtain rfl := Option.some.inj hl
      exact apart
    · rw [hx] at hl
      exact hn key l hl
  obtain ⟨-, -, ⟨-, rfl⟩ | ⟨-, k, -, -, rfl⟩⟩ := addLink_eq_ok hadd
  · exact put _ _ rfl
  · exact put _ _ rfl

theorem loopless_readDevice (fs : Fields) :
    Keeps (fun n => n.Proper ∧ n.Loopless) (readDevice fs) := by
  rintro n ⟨hp, hn⟩
  refine ⟨keeps_readDevice fs n hp, ?_⟩
  obtain h | ⟨entry, d, m, -, hadd, h⟩ := readDevice_cases fs n
  · rwa [h]
  · rw [h]
    obtain ⟨rfl, -⟩ | ⟨-, rfl, -⟩ := addDevice_eq_ok hp hadd
    · exact hn
    · exact hn

/-- A link whose ends have no blanks around them and are different is no loop. -/
theorem loopless_readLink {fs : Fields} {source target : String} (reserved : List String)
    (hsource : fs.required "sourceId" = .ok (.text source))
    (htarget : fs.required "targetId" = .ok (.text target))
    (apart : Text.trim source ≠ Text.trim target) :
    Keeps (fun n => n.Proper ∧ n.Loopless) (readLink reserved fs) := by
  refine keeps_readLink reserved fs (fun n hn => ⟨hn.1.congr rfl, hn.2⟩) ?_
  rintro n a b id given m ha hb - ⟨hp, hn⟩ hadd
  obtain rfl := Except.ok.inj (hsource.symm.trans ha)
  obtain rfl := Except.ok.inj (htarget.symm.trans hb)
  exact ⟨hp.congr (devices_addLink hadd), hn.addLink apart hadd⟩

theorem ofDocument_eq_ok {doc : Value} {n : Network} :
    ofDocument doc = .ok n ↔ empty.importDocument doc = (.ok (), n) := by
  rw [ofDocument]
  cases empty.importDocument doc with
  | mk result m => cases result <;> simp [Prod.ext_iff]

end NetLab.Network

/-! ## Loaded networks -/

namespace NetLab.Schema

variable {doc : Value} {t : TopologyDoc} {n : Network}

/-- A document is loaded if it fits the schema, holds together, and describes a network. -/
theorem load_eq_ok : load doc = .ok n ↔ ∃ t, topologyDoc doc = .ok t ∧
    t.referenceProblems = [] ∧ Network.ofDocument t.toDocument = .ok n := by
  rw [load]
  cases topologyDoc doc with
  | bad ps => simp
  | ok t => cases h : t.referenceProblems <;> simp [h]

theorem storable_load (h : load doc = .ok n) : n.Storable := by
  obtain ⟨t, ht, -, h⟩ := load_eq_ok.1 h
  have storable := Network.storable_importDocument Network.empty
    (TopologyDoc.hasTextLabels (valid_topologyDoc ht))
  rwa [Network.ofDocument_eq_ok.1 h] at storable

theorem typed_load (h : load doc = .ok n) : n.Typed := by
  obtain ⟨t, ht, -, h⟩ := load_eq_ok.1 h
  have typed : ∀ r ∈ t.devices.map fun d => (Index.ofList d.settings).entries,
      Fields.TypedDevice r := by
    intro r hr
    obtain ⟨d, hd, rfl⟩ := List.mem_map.1 hr
    exact typed_deviceSettings (valid_topologyDoc ht d hd)
  have imported := Network.typed_importDocument Network.empty t.toDocument_eq t.records_devices
    t.records_links typed
  rwa [Network.ofDocument_eq_ok.1 h] at imported

/-- The references were checked before blanks were dropped, so that no link is a loop holds only if
there were none to drop. -/
theorem loopless_load (ht : topologyDoc doc = .ok t) (trimmed : t.HasTrimmedEnds)
    (h : load doc = .ok n) : n.Loopless := by
  obtain ⟨t', ht', references, h⟩ := load_eq_ok.1 h
  obtain rfl := Checked.ok.inj (ht.symm.trans ht')
  have start : Network.empty.Proper ∧ Network.empty.Loopless :=
    ⟨Network.proper_empty, fun k l hl => by cases hl⟩
  have imported := Network.keeps_importDocument (P := fun n => n.Proper ∧ n.Loopless)
    Network.empty t.toDocument_eq t.records_devices t.records_links start
    (fun r _ => Network.loopless_readDevice r) fun r hr reserved => by
      obtain ⟨l, hl, rfl⟩ := List.mem_map.1 hr
      obtain ⟨source, target⟩ := l.required_ends
      obtain ⟨hs, ht⟩ := trimmed l hl
      refine Network.loopless_readLink reserved source target ?_
      rw [hs, ht]
      exact ((TopologyDoc.referenceProblems_eq_nil_iff.1 references).2.2 l hl).2.2
  rw [Network.ofDocument_eq_ok.1 h] at imported
  exact imported.2

end NetLab.Schema
