import NetLab.Proofs.Network.ReadLinks

set_option autoImplicit false

/-!
# Reading a network that was written

The document of a storable network describes a network that has the same document again, with the
devices in the same order and the very same links.  Devices and links are read one after the other,
so what is shown is what each of them puts behind those that are there already.
-/

namespace NetLab

open Reading

/-- The records of a list of records. -/
theorem Value.records_list_map {α : Type} (f : α → Fields) (xs : List α) :
    records (.list (xs.map fun x => .object (f x))) = .ok (xs.map f) := by
  rw [records, List.filterMap_map]
  exact congrArg Except.ok (congrFun List.filterMap_eq_map xs)

/-! ## Devices -/

/-- A record has the fields that it was made of. -/
theorem Fields.required_record {es : Fields} (h : (es.map Prod.fst).Nodup) {name : String}
    {v : Value} (hv : (name, v) ∈ es) :
    Fields.required name (Index.ofList es).entries = .ok v := by
  rw [required, Value.field?_record h, (Index.find_eq_some_iff_of_nodup h).2 hv]

theorem Kind.name_ne_empty (k : Kind) : k.name ≠ "" := by
  cases k <;> decide

theorem Status.name_ne_empty (x : Status) : x.name ≠ "" := by
  cases x <;> decide

namespace Network

variable {n : Network}

theorem readKind_name (k : Kind) : readKind (.text k.name) = .ok k := by
  cases k <;> rfl

theorem readStatus_name (x : Status) : readStatus (.text x.name) = .ok x := by
  cases x <;> rfl

/-- What the settings of a device say of it when it is added. -/
theorem ofFields_settings (d : Device) :
    Entry.ofFields (Index.ofList d.settings).entries =
      .ok { uid := d.uid, kind := .text d.kind.name, label := d.label.ifGiven,
            status := .text d.status.name } := by
  have nodup : (d.settings.map Prod.fst).Nodup := by simp [Device.settings]
  have id : Fields.required "id" (Index.ofList d.settings).entries = .ok (.text d.uid) :=
    Fields.required_record nodup (by simp [Device.settings])
  have kind : Value.field "kind" (Index.ofList d.settings).entries = .text d.kind.name :=
    Device.field_settings (by simp [Device.settings])
  have label : Value.field "label" (Index.ofList d.settings).entries = d.label :=
    Device.field_settings (by simp [Device.settings])
  have status : Value.field "status" (Index.ofList d.settings).entries = .text d.status.name :=
    Device.field_settings (by simp [Device.settings])
  rw [Entry.ofFields, id, kind, label, status]
  simp [Value.given, Value.display, Kind.name_ne_empty, Status.name_ne_empty]

/-- A label that is not given is the same as none. -/
theorem new_ifGiven (uid : String) (kind : Kind) (label address : Value) (status : Status) :
    Device.new uid kind label.ifGiven address status =
      Device.new uid kind label address status := by
  rw [Value.ifGiven]
  split
  · rfl
  · next h => rw [Device.new, Device.new, if_neg h, if_neg (by simp [Value.given])]

/-- A legible device that is new to the network is put behind its devices, filled in. -/
theorem run_readDevice_written {d : Device} {uid : String} (hp : d.Proper uid) (hd : d.Legible)
    (new : n.devices.get? d.uid = none) :
    ∃ d' : Device, d'.uid = d.uid ∧ d'.toDocument = d.filled.toDocument ∧
      (readDevice (Index.ofList d.settings).entries).run n =
        (.ok d.uid, { n with devices := n.devices.put d.uid d' }) := by
  obtain ⟨r, hrun, hsame⟩ := hd.run_read_settings hp
  have trimmed : Text.trim d.uid = d.uid := by rw [hp.uid, hp.trimmed]
  have named : d.uid ≠ "" := by
    rw [hp.uid]
    exact hp.named
  generalize hx : Device.new d.uid d.kind d.label .null d.status = x at hrun
  have hadd : n.addDevice { uid := d.uid, kind := .text d.kind.name, label := d.label.ifGiven,
                            status := .text d.status.name } =
      .ok (x, { n with devices := n.devices.put d.uid x }) := by
    rw [addDevice]
    simp only [trimmed, named, readKind_name, readStatus_name, new, if_false, new_ifGiven, ← hx]
    rfl
  have huid : x.uid = d.uid := by rw [← hx, Device.new]
  have same : ({ d.filled with interfaces := r } : Device).toDocument = d.filled.toDocument := by
    rw [Device.toDocument, hsame]
    rfl
  have back : ({ d.filled with interfaces := r } : Device).uid = d.uid := rfl
  generalize ({ d.filled with interfaces := r } : Device) = d' at hrun same back
  refine ⟨d', back, same, ?_⟩
  rw [run_readDevice (ofFields_settings d) hadd]
  dsimp only
  rw [huid, Roster.get?_put, if_pos rfl, Option.getD_some, hrun]
  dsimp only
  rw [back, Roster.put_put]
  rfl

/-- Legible devices that are new to the network are put behind its devices, filled in and in their
order. -/
theorem run_readDevices_written {ds : List Device} {n : Network}
    (proper : ∀ d ∈ ds, d.Proper d.uid) (legible : ∀ d ∈ ds, d.Legible)
    (nodup : (ds.map Device.uid).Nodup) (new : ∀ d ∈ ds, n.devices.get? d.uid = none) :
    ∃ r, (readDevices (ds.map fun d => (Index.ofList d.settings).entries)).run n =
        (.ok (), { n with devices := r }) ∧
      r.keys = n.devices.keys ++ ds.map Device.uid ∧
      r.values.map Device.toDocument =
        n.devices.values.map Device.toDocument ++ ds.map fun d => d.filled.toDocument := by
  induction ds generalizing n with
  | nil => exact ⟨n.devices, rfl, (List.append_nil _).symm, (List.append_nil _).symm⟩
  | cons d ds ih =>
    have hp := proper d (List.mem_cons_self ..)
    have hd := legible d (List.mem_cons_self ..)
    have hnew := new d (List.mem_cons_self ..)
    obtain ⟨d', -, hsame, hrun⟩ := run_readDevice_written hp hd hnew
    rw [List.map_cons, List.nodup_cons] at nodup
    have fresh : ∀ x ∈ ds, (n.devices.put d.uid d').get? x.uid = none := by
      intro x hx
      have hne : x.uid ≠ d.uid := fun heq => nodup.1 (List.mem_map.2 ⟨x, hx, heq⟩)
      rw [Roster.get?_put, if_neg hne]
      exact new x (List.mem_cons_of_mem _ hx)
    obtain ⟨r, hrest, hkeys, hvalues⟩ := ih (n := { n with devices := n.devices.put d.uid d' })
      (fun x hx => proper x (List.mem_cons_of_mem _ hx))
      (fun x hx => legible x (List.mem_cons_of_mem _ hx)) nodup.2 fresh
    have id : Value.field "id" (Index.ofList d.settings).entries = .text d.uid :=
      Device.field_settings (by simp [Device.settings])
    have first : (discard (readDevice (Index.ofList d.settings).entries)).run n =
        (.ok (), { n with devices := n.devices.put d.uid d' }) := by
      rw [run_discard, hrun]
      rfl
    refine ⟨r, ?_, ?_, ?_⟩
    · rw [List.map_cons, readDevices, id, if_pos (by simpa [Value.given] using hp.named),
        run_bind_of_ok first, hrest]
    · rw [hkeys, Roster.keys_put_of_none hnew, List.append_assoc]
      rfl
    · rw [hvalues, Roster.values_put_of_none hnew, List.map_append, List.append_assoc,
        List.map_singleton, hsame]
      rfl

end Network

/-! ## Links -/

namespace Link

variable {l : Link String}

/-- The settings of a link as they are written. -/
def settings (l : Link String) : Fields :=
  [("id", l.id), ("sourceId", .text l.source), ("targetId", .text l.target)]

theorem field_id (l : Link String) : Value.field "id" (Index.ofList l.settings).entries = l.id :=
  Value.field_record (by simp [settings]) (by simp [settings])

theorem given_id {id : String} (h : l.id = .text id) : l.id.given = true ↔ id ≠ "" := by
  simp [h, Value.given]

theorem linkId?_settings {id : String} (h : l.id = .text id) (named : id ≠ "") :
    Fields.linkId? (Index.ofList l.settings).entries = some id :=
  Fields.linkId?_of_text (l.field_id.trans h) named

theorem linkId?_settings_of_empty (h : l.id.given = false) :
    Fields.linkId? (Index.ofList l.settings).entries = none :=
  Fields.linkId?_of_not_given (by rw [l.field_id, h])

/-- The ids that links are given, as they stand in the records of the links. -/
theorem linkIds_settings {ls : List (Link String)} (stored : ∀ l ∈ ls, ∃ id, l.id = .text id) :
    ((ls.map fun l => (Index.ofList l.settings).entries).filterMap Fields.linkId?).map Value.text =
      (ls.map Link.id).filter Value.given := by
  induction ls with
  | nil => rfl
  | cons l ls ih =>
    obtain ⟨⟨id, hid⟩, stored⟩ := List.forall_mem_cons.1 stored
    rw [List.map_cons, List.map_cons]
    cases given : l.id.given with
    | true =>
      have named := linkId?_settings hid ((given_id hid).1 given)
      rw [List.filterMap_cons_some named, List.filter_cons_of_pos given, List.map_cons, ih stored,
        hid]
    | false =>
      have unnamed := linkId?_settings_of_empty given
      rw [List.filterMap_cons_none unnamed, List.filter_cons_of_neg (by simp [given]), ih stored]

end Link

namespace Network

variable {n : Network}

/-- A device that is there has no blanks around its id. -/
theorem Proper.trim_of_contains (h : n.Proper) {uid : String}
    (there : n.devices.contains uid = true) : Text.trim uid = uid := by
  obtain ⟨d, hd⟩ := Roster.contains_iff.1 there
  exact (h _ _ hd).trimmed

/-- The ends of a link between devices are read as they are written. -/
theorem Proper.joins (h : n.Proper) {l : Link String}
    (source : n.devices.contains l.source = true) (target : n.devices.contains l.target = true) :
    Fields.Joins (Index.ofList l.settings).entries l.source l.target := by
  have nodup : (l.settings.map Prod.fst).Nodup := by simp [Link.settings]
  constructor
  · refine ⟨.text l.source, ?_, h.trim_of_contains source⟩
    exact Fields.required_record nodup (by simp [Link.settings])
  · refine ⟨.text l.target, ?_, h.trim_of_contains target⟩
    exact Fields.required_record nodup (by simp [Link.settings])

/-- Links with different ids are read into a network that has the devices and no links yet. -/
theorem Proper.run_readLinks (h : n.Proper) (noLinks : n.links = Roster.empty)
    {ls : List (Link String)} (stored : ∀ l ∈ ls, ∃ id, l.id = .text id)
    (joined : ∀ l ∈ ls, n.devices.contains l.source = true ∧ n.devices.contains l.target = true)
    (different : (ls.map Link.id).Nodup) :
    let records := ls.map fun l => (Index.ofList l.settings).entries
    ∃ m rs, (readLinks (explicitIds records) records).run n = (.ok (), m) ∧
      m.devices = n.devices ∧ m.links.entries = rs.map (fun l => (l.id, l)) ∧
      LinksRead (explicitIds records) n.nextLink records rs m.nextLink := by
  intro records
  have ids := Link.linkIds_settings stored
  have apart : (records.filterMap Fields.linkId?).Nodup := by
    refine List.Nodup.of_map Value.text ?_
    rw [ids]
    exact different.filter _
  have ends : ∀ fs ∈ records, ∃ a b, Fields.Joins fs a b ∧ n.devices.contains a = true ∧
      n.devices.contains b = true := by
    intro fs hfs
    obtain ⟨l, hl, rfl⟩ := List.mem_map.1 hfs
    obtain ⟨source, target⟩ := joined l hl
    exact ⟨l.source, l.target, h.joins source target, source, target⟩
  have kept : ∀ id ∈ records.filterMap Fields.linkId?, id ∈ explicitIds records := fun _ hid => hid
  obtain ⟨m, rs, run, devices, links, read⟩ := Network.run_readLinks ends apart kept
    fun _ _ => by rw [noLinks]; rfl
  rw [noLinks] at links
  exact ⟨m, rs, run, devices, links, read⟩

/-- A link that has an id is read as it was written. -/
theorem Proper.eq_of_readAs (h : n.Proper) {l r : Link String}
    (source : n.devices.contains l.source = true) (target : n.devices.contains l.target = true)
    (named : ∃ id, l.id = .text id ∧ id ≠ "")
    (read : Fields.ReadAs (Index.ofList l.settings).entries r) : r = l := by
  obtain ⟨id, hid, named⟩ := named
  obtain ⟨rid, a, b⟩ := r
  obtain ⟨rfl, rfl⟩ : a = l.source ∧ b = l.target := read.ends.unique (h.joins source target)
  obtain rfl : rid = l.id := (read.id id (Link.linkId?_settings hid named)).trans hid.symm
  rfl

/-! ## Networks -/

/-- To read what was written is to read the devices and then the links. -/
theorem importDocument_toDocument (n : Network) :
    let links := n.links.values.map fun l => (Index.ofList l.settings).entries
    empty.importDocument n.toDocument =
      (do readDevices (n.devices.values.map fun d => (Index.ofList d.settings).entries)
          readLinks (explicitIds links) links : Reading Network Unit).run empty := by
  intro links
  let fields : Fields := [("devices", .list (n.devices.values.map Device.toDocument)),
    ("links", .list (n.links.values.map Link.toDocument))]
  have different : (fields.map Prod.fst).Nodup := by simp [fields]
  have devices : (Value.field "devices" (Index.ofList fields).entries).records =
      .ok (n.devices.values.map fun d => (Index.ofList d.settings).entries) := by
    rw [Value.field_record different (List.mem_cons_self ..)]
    exact Value.records_list_map _ _
  have listed : (Value.field "links" (Index.ofList fields).entries).records = .ok links := by
    rw [Value.field_record different (List.mem_cons_of_mem _ (List.mem_cons_self ..))]
    exact Value.records_list_map _ _
  change (read (.object (Index.ofList fields).entries)).run empty = _
  rw [read, run_bind_of_ok (run_set _ _), run_lift_bind devices]
  refine congrArg (fun next : Unit → Reading Network Unit => (_ >>= next).run empty)
    (funext fun _ => ?_)
  exact ExceptT.ext (StateT.ext fun m => run_lift_bind listed _ m)

/-- Legible devices are read into the empty network, filled in and in their order. -/
theorem Proper.run_readDevices (h : n.Proper)
    (legible : ∀ uid d, n.devices.get? uid = some d → d.Legible) :
    ∃ r, (readDevices (n.devices.values.map fun d => (Index.ofList d.settings).entries)).run empty =
        (.ok (), { empty with devices := r }) ∧
      ({ empty with devices := r } : Network).Proper ∧ r.keys = n.devices.keys ∧
      r.values.map Device.toDocument = n.devices.values.map fun d => d.filled.toDocument := by
  have found : ∀ d ∈ n.devices.values, n.devices.get? d.uid = some d := by
    intro d hd
    obtain ⟨uid, hget⟩ := Roster.mem_values_iff.1 hd
    rwa [(h uid d hget).uid]
  have keys : n.devices.values.map Device.uid = n.devices.keys := h.map_uid
  have nodup : (n.devices.values.map Device.uid).Nodup := by
    rw [keys]
    exact n.devices.nodup
  obtain ⟨r, hrun, hkeys, hvalues⟩ := run_readDevices_written (n := empty)
    (fun d hd => h _ d (found d hd)) (fun d hd => legible _ d (found d hd)) nodup fun _ _ => rfl
  have keep : Keeps Proper
      (readDevices (n.devices.values.map fun d => (Index.ofList d.settings).entries)) :=
    keeps_readDevices fun fs _ => keeps_readDevice fs
  have proper := keep empty proper_empty
  rw [hrun] at proper
  exact ⟨r, hrun, proper, hkeys.trans keys, hvalues⟩

namespace Storable

/-- The links of a storable network are read into a network that has its devices. -/
theorem run_readLinks (h : n.Storable) {r : Roster String Device}
    (proper : ({ empty with devices := r } : Network).Proper) (keys : r.keys = n.devices.keys) :
    let records := n.links.values.map fun l => (Index.ofList l.settings).entries
    ∃ m, (readLinks (explicitIds records) records).run { empty with devices := r } = (.ok (), m) ∧
      m.devices = r ∧ m.links = n.links := by
  have written : ∀ e ∈ n.links.entries, e.1 = e.2.id ∧ (∃ id, e.2.id = .text id ∧ id ≠ "") ∧
      r.contains e.2.source = true ∧ r.contains e.2.target = true := by
    intro e he
    obtain ⟨hk, hid, source, target⟩ := h.links e.1 e.2 (Roster.get?_eq_some_iff.2 he)
    exact ⟨hk, hid, (Roster.contains_congr keys _).trans source,
      (Roster.contains_congr keys _).trans target⟩
  have stored : ∀ l ∈ n.links.values, (∃ id, l.id = .text id ∧ id ≠ "") ∧
      r.contains l.source = true ∧ r.contains l.target = true := by
    intro l hl
    obtain ⟨e, he, rfl⟩ := List.mem_map.1 hl
    exact (written e he).2
  have keyed : n.links.values.map (fun l => (l.id, l)) = n.links.entries := by
    rw [Roster.values, List.map_map]
    refine (List.map_congr_left fun e he => ?_).trans (List.map_id _)
    exact Prod.ext (written e he).1.symm rfl
  have different : (n.links.values.map Link.id).Nodup := by
    have ids : n.links.values.map Link.id = n.links.keys := by
      rw [Roster.keys, ← keyed, List.map_map]
      rfl
    rw [ids]
    exact n.links.nodup
  obtain ⟨m, rs, run, devices, links, read⟩ := proper.run_readLinks rfl
    (fun l hl => (stored l hl).1.imp fun _ hid => hid.1) (fun l hl => (stored l hl).2) different
  have same : n.links.values = rs := by
    have pairs := (List.forall₂_and_left _ _).2 ⟨stored, List.forall₂_map_left_iff.1 read.readAs⟩
    rw [← List.forall₂_eq_eq_eq]
    refine pairs.imp fun l x hx => ?_
    obtain ⟨⟨named, source, target⟩, readAs⟩ := hx
    exact (proper.eq_of_readAs source target named readAs).symm
  refine ⟨m, run, devices, Roster.ext_entries ?_⟩
  rw [links, ← same, keyed]

/-- A storable network reads back: the document is the same again, the devices come in the same
order, and the links are the same. -/
theorem ofDocument_toDocument (h : n.Storable) :
    ∃ m, ofDocument n.toDocument = .ok m ∧ m.toDocument = n.toDocument ∧
      m.devices.keys = n.devices.keys ∧ m.links = n.links := by
  obtain ⟨r, hdevices, proper, hkeys, hvalues⟩ := h.proper.run_readDevices
    fun uid d hd => (h.devices uid d hd).legible
  have same : (n.devices.values.map fun d => d.filled.toDocument) =
      n.devices.values.map Device.toDocument := by
    refine List.map_congr_left fun d hd => ?_
    obtain ⟨uid, found⟩ := Roster.mem_values_iff.1 hd
    rw [(h.devices uid d found).filled_eq]
  obtain ⟨m, hlinks, rfl, links⟩ := h.run_readLinks proper hkeys
  have run : empty.importDocument n.toDocument = (.ok (), m) := by
    rw [importDocument_toDocument, run_bind_of_ok hdevices, hlinks]
  refine ⟨m, by rw [ofDocument, run], ?_, hkeys, links⟩
  rw [toDocument, toDocument, hvalues, same, links]

end Storable

end Network

end NetLab
