import NetLab.Proofs.Network.Complete
import NetLab.Proofs.Schema.Written

set_option autoImplicit false

/-!
# Documents that describe a network

Checking the references of a document and loading it come to the same.  A document that was accepted
is sound if its device ids are different and not blank, its explicit link ids are different, and
every link joins two of its devices.  Then it describes a network: the ids of the devices without
the blanks around them, and one link for each link of the document.  The ids by which links are
numbered were kept apart from those that are still to come, so no link is refused.  If only some
device id is blank, reading stops at the first one that is.
-/

namespace NetLab

/-- The two ends of a link. -/
def Link.ends (l : Link String) : String × String := (l.source, l.target)

namespace Schema

open Reading

variable {n : Network}

/-! ## Devices -/

namespace DeviceDoc

variable {d : DeviceDoc}

/-- What the settings of a device say of it when it is added. -/
theorem ofFields_settings (d : DeviceDoc) :
    Network.Entry.ofFields (Index.ofList d.settings).entries =
      .ok { uid := d.id, kind := .text d.kind.name, label := (Value.ofText? d.label).ifGiven,
            status := .text d.status.name } := by
  have id : Fields.required "id" (Index.ofList d.settings).entries = .ok (.text d.id) :=
    Fields.required_record (by simp [settings]) (by simp [settings])
  have kind : Value.field "kind" (Index.ofList d.settings).entries = .text d.kind.name :=
    field_settings (by simp [settings])
  have label : Value.field "label" (Index.ofList d.settings).entries = .ofText? d.label :=
    field_settings (by simp [settings])
  have status : Value.field "status" (Index.ofList d.settings).entries = .text d.status.name :=
    field_settings (by simp [settings])
  rw [Network.Entry.ofFields, id, kind, label, status]
  simp [Value.given, Value.display, Kind.name_ne_empty, Status.name_ne_empty]

theorem complete_interfaceSettings (i : InterfaceDoc) :
    Fields.CompleteInterface (Index.ofList i.settings).entries := by
  have different : (i.settings.map Prod.fst).Nodup := by simp [InterfaceDoc.settings]
  exact ⟨⟨i.accessVlan, Value.field?_record different _⟩,
    ⟨i.nativeVlan, Value.field?_record different _⟩⟩

theorem complete_settings (h : d.Readable) :
    Fields.CompleteDevice (Index.ofList d.settings).entries := by
  refine ⟨?_, fun es hes e he => ?_, fun es hes e he is his => ?_⟩
  · rw [field_settings (v := .ofInt? d.displayVlan) (by simp [settings])]
    cases d.displayVlan with
    | none => exact Or.inl rfl
    | some vlan => exact Or.inr ⟨vlan, rfl⟩
  · rw [field_settings (v := .object (d.vlans.map fun e => (e.1, .text e.2)))
      (by simp [settings])] at hes
    cases hes
    obtain ⟨x, hx, rfl⟩ := List.mem_map.1 he
    exact h.vlans x hx
  · rw [field_settings (v := .object (d.interfaces.map fun e => (e.1, e.2.toDocument)))
      (by simp [settings])] at hes
    cases hes
    obtain ⟨x, -, rfl⟩ := List.mem_map.1 he
    rw [InterfaceDoc.toDocument_eq] at his
    cases his
    exact complete_interfaceSettings x.2

end DeviceDoc

/-- A device with an id is not passed over. -/
theorem readDevices_cons {d : DeviceDoc} (h : d.Readable) (rest : List Fields) :
    Network.readDevices ((Index.ofList d.settings).entries :: rest) =
      (do discard (Network.readDevice (Index.ofList d.settings).entries)
          Network.readDevices rest) := by
  rw [Network.readDevices, DeviceDoc.field_settings (v := .text d.id)
    (by simp [DeviceDoc.settings]), if_pos (by simpa [Value.given] using h.named)]

/-- A device whose id is not blank is read, and stands under its id without the blanks. -/
theorem run_readDevice {d : DeviceDoc} (h : d.Readable) (named : Text.trim d.id ≠ "")
    (hn : n.Proper) :
    ∃ m, (discard (Network.readDevice (Index.ofList d.settings).entries)).run n = (.ok (), m) ∧
      m.Proper ∧ m.links = n.links ∧
      ∀ k, m.devices.contains k = true ↔ k = Text.trim d.id ∨ n.devices.contains k = true := by
  have reading := Network.run_readDevice_of_completes hn d.ofFields_settings
    (Network.readKind_name d.kind) (Network.readStatus_name d.status) named
    (Device.completes_read (DeviceDoc.complete_settings h))
  obtain ⟨m, run, links, keys⟩ := reading
  have proper := Network.keeps_readDevice (Index.ofList d.settings).entries n hn
  rw [run] at proper
  refine ⟨m, ?_, proper, links, keys⟩
  rw [run_discard, run]
  rfl

/-- Devices whose ids are not blank are read, and stand under their ids without the blanks. -/
theorem run_readDevices {ds : List DeviceDoc} (readable : ∀ d ∈ ds, d.Readable)
    (named : ∀ d ∈ ds, Text.trim d.id ≠ "") (hn : n.Proper) :
    ∃ m, (Network.readDevices (ds.map fun d => (Index.ofList d.settings).entries)).run n =
        (.ok (), m) ∧ m.links = n.links ∧
      ∀ k, m.devices.contains k = true ↔
        (∃ d ∈ ds, k = Text.trim d.id) ∨ n.devices.contains k = true := by
  induction ds generalizing n with
  | nil => exact ⟨n, rfl, rfl, fun k => by simp⟩
  | cons d ds ih =>
    have hd := readable d (List.mem_cons_self ..)
    obtain ⟨m, first, proper, links, keys⟩ := run_readDevice hd (named d (List.mem_cons_self ..)) hn
    obtain ⟨last, rest, restLinks, restKeys⟩ := ih
      (fun x hx => readable x (List.mem_cons_of_mem _ hx))
      (fun x hx => named x (List.mem_cons_of_mem _ hx)) proper
    refine ⟨last, ?_, restLinks.trans links, fun k => ?_⟩
    · rw [List.map_cons, readDevices_cons hd, run_bind_of_ok first, rest]
    · rw [restKeys, keys]
      simp only [List.mem_cons, exists_eq_or_imp]
      exact or_left_comm.trans or_assoc.symm

/-- Reading devices stops at the first one whose id is blank. -/
theorem run_readDevices_of_blank {ds : List DeviceDoc} (readable : ∀ d ∈ ds, d.Readable)
    (blank : ∃ d ∈ ds, Text.trim d.id = "") (hn : n.Proper) :
    ((Network.readDevices (ds.map fun d => (Index.ofList d.settings).entries)).run n).1 =
      .error .emptyDeviceId := by
  induction ds generalizing n with
  | nil =>
    obtain ⟨d, hd, -⟩ := blank
    cases hd
  | cons d ds ih =>
    have hd := readable d (List.mem_cons_self ..)
    rw [List.map_cons, readDevices_cons hd]
    by_cases own : Text.trim d.id = ""
    · have stops : (discard (Network.readDevice (Index.ofList d.settings).entries)).run n =
          (.error .emptyDeviceId, n) := by
        rw [run_discard, Network.run_readDevice_of_blank d.ofFields_settings own]
        rfl
      rw [run_bind_of_error stops]
    · obtain ⟨m, first, proper, -, -⟩ := run_readDevice hd own hn
      have later : ∃ x ∈ ds, Text.trim x.id = "" := by
        obtain ⟨x, hx, hblank⟩ := blank
        rcases List.mem_cons.1 hx with rfl | hx
        · exact absurd hblank own
        · exact ⟨x, hx, hblank⟩
      rw [run_bind_of_ok first]
      exact ih (fun x hx => readable x (List.mem_cons_of_mem _ hx)) later proper

/-! ## Links -/

namespace LinkDoc

variable {l : LinkDoc}

/-- The id that a document gives a link.  An empty one counts as none. -/
def explicitId (l : LinkDoc) : Option String := l.id.filter (· ≠ "")

/-- The ends of a link without the blanks around them. -/
def ends (l : LinkDoc) : String × String := (Text.trim l.source, Text.trim l.target)

theorem linkId?_settings (l : LinkDoc) :
    Fields.linkId? (Index.ofList l.settings).entries = l.explicitId := by
  have field : Value.field "id" (Index.ofList l.settings).entries = .ofText? l.id :=
    Value.field_record (by simp [settings]) (by simp [settings])
  rw [explicitId]
  cases hid : l.id with
  | none =>
    refine Fields.linkId?_of_not_given ?_
    rw [field, hid]
    rfl
  | some id =>
    rw [hid] at field
    by_cases empty : id = ""
    · rw [Fields.linkId?_of_not_given (by simp [field, empty, Value.ofText?, Value.given]),
        Option.filter_some_neg (by simpa using empty)]
    · rw [Fields.linkId?_of_text field empty, Option.filter_some_pos (by simpa using empty)]

theorem joins_settings (l : LinkDoc) :
    Fields.Joins (Index.ofList l.settings).entries (Text.trim l.source) (Text.trim l.target) := by
  obtain ⟨source, target⟩ := l.required_ends
  exact ⟨⟨_, source, rfl⟩, ⟨_, target, rfl⟩⟩

end LinkDoc

/-- Links between devices are all read into a network that has none yet, in their order. -/
theorem run_readLinks {ls : List LinkDoc} (noLinks : n.links = Roster.empty)
    (joined : ∀ l ∈ ls, n.devices.contains (Text.trim l.source) = true ∧
      n.devices.contains (Text.trim l.target) = true)
    (different : (ls.filterMap LinkDoc.explicitId).Nodup) :
    let records := ls.map fun l => (Index.ofList l.settings).entries
    ∃ m, (Network.readLinks (Network.explicitIds records) records).run n = (.ok (), m) ∧
      m.devices = n.devices ∧ m.links.values.map Link.ends = ls.map LinkDoc.ends := by
  intro records
  have ids : records.filterMap Fields.linkId? = ls.filterMap LinkDoc.explicitId := by
    rw [List.filterMap_map]
    exact List.filterMap_congr fun l _ => l.linkId?_settings
  have ends : ∀ fs ∈ records, ∃ a b, Fields.Joins fs a b ∧ n.devices.contains a = true ∧
      n.devices.contains b = true := by
    intro fs hfs
    obtain ⟨l, hl, rfl⟩ := List.mem_map.1 hfs
    exact ⟨_, _, l.joins_settings, joined l hl⟩
  rw [← ids] at different
  have kept : ∀ id ∈ records.filterMap Fields.linkId?, id ∈ Network.explicitIds records :=
    fun _ hid => hid
  obtain ⟨m, rs, run, devices, links, read⟩ := Network.run_readLinks ends different kept
    fun _ _ => by rw [noLinks]; rfl
  refine ⟨m, run, devices, ?_⟩
  rw [noLinks] at links
  have values : m.links.values = rs := by
    rw [Roster.values, links, Roster.empty, List.nil_append, List.map_map]
    exact List.map_id _
  rw [values, eq_comm, ← List.forall₂_eq_eq_eq, List.forall₂_map_left_iff,
    List.forall₂_map_right_iff]
  refine (List.forall₂_map_left_iff.1 read.readAs).imp fun l r hr => ?_
  obtain ⟨source, target⟩ := l.joins_settings.unique hr.ends
  exact Prod.ext source target

/-! ## Documents -/

namespace TopologyDoc

variable {t : TopologyDoc}

/-- What a document must be like to describe a network. -/
structure Sound (t : TopologyDoc) : Prop where
  deviceIds : (t.devices.map (·.id)).Nodup
  linkIds : (t.links.filterMap (·.id)).Nodup
  ends : ∀ l ∈ t.links, l.source ∈ t.devices.map (·.id) ∧ l.target ∈ t.devices.map (·.id)
  apart : ∀ l ∈ t.links, l.source ≠ l.target
  named : ∀ d ∈ t.devices, ∃ c ∈ d.id.toList, Text.isBlank c = false

/-- A document is sound if nothing is wrong with its references, and no device id is blank. -/
theorem sound_iff :
    t.Sound ↔ t.referenceProblems = [] ∧ ∀ d ∈ t.devices, Text.trim d.id ≠ "" := by
  have named : ∀ s : String, (Text.trim s ≠ "" ↔ ∃ c ∈ s.toList, Text.isBlank c = false) := by
    intro s
    rw [Ne, Text.trim_eq_empty_iff]
    simp
  simp only [referenceProblems_eq_nil_iff, named]
  constructor
  · intro h
    refine ⟨⟨h.deviceIds, h.linkIds, fun l hl => ?_⟩, h.named⟩
    exact ⟨(h.ends l hl).1, (h.ends l hl).2, h.apart l hl⟩
  · rintro ⟨⟨deviceIds, linkIds, joined⟩, named⟩
    exact ⟨deviceIds, linkIds, fun l hl => ⟨(joined l hl).1, (joined l hl).2.1⟩,
      fun l hl => (joined l hl).2.2, named⟩

instance (t : TopologyDoc) : Decidable t.Sound := decidable_of_iff' _ sound_iff

/-- The network has the devices and the links of the document, without the blanks around ids. -/
structure Describes (t : TopologyDoc) (n : Network) : Prop where
  devices : ∀ uid, n.devices.contains uid = true ↔ ∃ d ∈ t.devices, uid = Text.trim d.id
  links : n.links.values.map Link.ends = t.links.map LinkDoc.ends

/-- A sound document describes a network. -/
theorem Sound.ofDocument_eq_ok (h : t.Sound) (readable : ∀ d ∈ t.devices, d.Readable) :
    ∃ n, Network.ofDocument t.toDocument = .ok n ∧ t.Describes n := by
  obtain ⟨-, named⟩ := sound_iff.1 h
  obtain ⟨m, devices, noLinks, keys⟩ := run_readDevices readable named Network.proper_empty
  have there : ∀ id ∈ t.devices.map (·.id), m.devices.contains (Text.trim id) = true := by
    intro id hid
    obtain ⟨d, hd, rfl⟩ := List.mem_map.1 hid
    exact (keys _).2 (Or.inl ⟨d, hd, rfl⟩)
  have different : (t.links.filterMap LinkDoc.explicitId).Nodup := by
    have filtered : t.links.filterMap LinkDoc.explicitId =
        (t.links.filterMap (·.id)).filter (· ≠ "") := List.filter_filterMap.symm
    rw [filtered]
    exact h.linkIds.filter _
  obtain ⟨n, links, same, ends⟩ := run_readLinks noLinks
    (fun l hl => ⟨there _ (h.ends l hl).1, there _ (h.ends l hl).2⟩) different
  refine ⟨n, Network.ofDocument_eq_ok.2 ?_, fun uid => ?_, ?_⟩
  · rw [Network.importDocument, t.toDocument_eq, Network.read.eq_def,
      run_bind_of_ok (run_set _ _)]
    dsimp only
    rw [run_lift_bind t.records_devices, run_bind_of_ok devices, run_lift_bind t.records_links,
      links]
  · rw [same, keys uid]
    exact or_iff_left (by simp [Network.empty, Roster.contains])
  · exact ends

/-- A document with a blank device id describes no network. -/
theorem ofDocument_of_blank (readable : ∀ d ∈ t.devices, d.Readable)
    (blank : ∃ d ∈ t.devices, Text.trim d.id = "") :
    Network.ofDocument t.toDocument = .error .emptyDeviceId := by
  have stops := run_readDevices_of_blank readable blank Network.proper_empty
  generalize run : (Network.readDevices
    (t.devices.map fun d => (Index.ofList d.settings).entries)).run Network.empty = p at stops
  obtain ⟨x, m⟩ := p
  obtain rfl : x = .error .emptyDeviceId := stops
  rw [Network.ofDocument, Network.importDocument, t.toDocument_eq, Network.read.eq_def,
    run_bind_of_ok (run_set _ _)]
  dsimp only
  rw [run_lift_bind t.records_devices, run_bind_of_error run]

end TopologyDoc

/-- A document that was accepted is loaded exactly if it is sound. -/
theorem load_iff_sound {doc : Value} {t : TopologyDoc} (accepted : topologyDoc doc = .ok t) :
    (∃ n, load doc = .ok n) ↔ t.Sound := by
  have readable := readable_topologyDoc accepted
  constructor
  · rintro ⟨n, hn⟩
    obtain ⟨t', accepted', references, hn⟩ := load_eq_ok.1 hn
    obtain rfl := Checked.ok.inj (accepted.symm.trans accepted')
    refine TopologyDoc.sound_iff.2 ⟨references, fun d hd blank => ?_⟩
    rw [TopologyDoc.ofDocument_of_blank readable ⟨d, hd, blank⟩] at hn
    cases hn
  · intro sound
    obtain ⟨n, hn, -⟩ := sound.ofDocument_eq_ok readable
    exact ⟨n, load_eq_ok.2 ⟨t, accepted, (TopologyDoc.sound_iff.1 sound).1, hn⟩⟩

/-- The network that is loaded is the one that the document describes. -/
theorem describes_load {doc : Value} {t : TopologyDoc} {n : Network}
    (accepted : topologyDoc doc = .ok t) (hn : load doc = .ok n) : t.Describes n := by
  have sound := (load_iff_sound accepted).1 ⟨n, hn⟩
  obtain ⟨m, hm, describes⟩ := sound.ofDocument_eq_ok (readable_topologyDoc accepted)
  obtain ⟨t', accepted', -, hn⟩ := load_eq_ok.1 hn
  obtain rfl := Checked.ok.inj (accepted.symm.trans accepted')
  obtain rfl : m = n := Except.ok.inj (hm.symm.trans hn)
  exact describes

end Schema

end NetLab
