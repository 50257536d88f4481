import NetLab.Proofs.Network.RoundTrip
import NetLab.Proofs.Network.Twin
import NetLab.Proofs.Network.Typed

set_option autoImplicit false

/-!
# What a document leaves open

The document of a network whose settings a document may hold says everything of the network but the
order of interfaces, which it lists by name, and the number of the next link.  So networks with one
document are twins, if their devices come in one order and their links are the same.  The settings
are not compared one by one: what is read from one and the same document is the same.
-/

namespace NetLab

/-! ## Interfaces -/

namespace Interface

variable {i j : Interface}

/-- An interface is known by its name and its document. -/
theorem eq_of_toDocument (hi : i.Storable) (hi' : i.Typed) (hj : j.Storable) (hj' : j.Typed)
    (key : j.key = i.key) (document : j.toDocument = i.toDocument) : j = i := by
  have settings : (Index.ofList j.settings).entries = (Index.ofList i.settings).entries := by
    rw [toDocument_eq, toDocument_eq] at document
    exact Value.object.inj document
  have read := run_read_settings hi i
  rw [← settings, run_read_settings hj i] at read
  have back : ({ j with key := i.key, name := i.name } : Interface) = i := (Prod.mk.inj read).2
  have name : j.name = i.name := by rw [hj'.name, hi'.name, key]
  rw [← key, ← name] at back
  exact back

end Interface

/-! ## Devices -/

theorem Kind.eq_of_name {a b : Kind} (h : b.name = a.name) : b = a := by
  have read := Network.readKind_name a
  rw [← h, Network.readKind_name b] at read
  exact Except.ok.inj read

theorem Status.eq_of_name {a b : Status} (h : b.name = a.name) : b = a := by
  have read := Network.readStatus_name a
  rw [← h, Network.readStatus_name b] at read
  exact Except.ok.inj read

namespace Device

variable {d d' : Device} {uid uid' : String}

/-- Whatever interface one device has, a device with the same interface document has it too. -/
theorem get?_of_interfaceDocument (hp : d.Proper uid) (hs : d.Storable) (ht : d.Typed)
    (hp' : d'.Proper uid') (hs' : d'.Storable) (ht' : d'.Typed)
    (document : interfaceDocument d'.interfaces = interfaceDocument d.interfaces) {k : Value}
    {i : Interface} (there : d.interfaces.get? k = some i) : d'.interfaces.get? k = some i := by
  have entries : (Index.ofList (d'.interfaces.values.map interfaceEntry)).entries =
      (Index.ofList (d.interfaces.values.map interfaceEntry)).entries := Value.object.inj document
  have listed : interfaceEntry i ∈ d'.interfaces.values.map interfaceEntry := by
    rw [← Index.mem_entries_ofList (nodup_interfaceEntry hp' hs'.interfaces), entries,
      Index.mem_entries_ofList (nodup_interfaceEntry hp hs.interfaces)]
    exact List.mem_map_of_mem (Roster.mem_values_iff.2 ⟨k, there⟩)
  obtain ⟨j, hj, same⟩ := List.mem_map.1 listed
  obtain ⟨l, hl⟩ := Roster.mem_values_iff.1 hj
  obtain ⟨name, document⟩ := Prod.mk.inj same
  have key : j.key = i.key := by
    obtain ⟨a, ha⟩ := (hs.interfaces k i there).key
    obtain ⟨b, hb⟩ := (hs'.interfaces l j hl).key
    rw [ha, hb] at name ⊢
    exact congrArg Value.text name
  obtain rfl : j = i := Interface.eq_of_toDocument (hs.interfaces k i there)
    (ht.interfaces k i there) (hs'.interfaces l j hl) (ht'.interfaces l j hl) key document
  rwa [← hp.keyed k j there, hp'.keyed l j hl]

/-- Twins have one document. -/
theorem Twin.toDocument_eq (h : d.Twin d') (hp : d.Proper uid) (hs : d.Storable) :
    d'.toDocument = d.toDocument := by
  have nodup := nodup_interfaceEntry hp hs.interfaces
  have perm := h.perm_values.map interfaceEntry
  have nodup' : ((d'.interfaces.values.map interfaceEntry).map Prod.fst).Nodup :=
    (perm.map Prod.fst).nodup_iff.1 nodup
  have interfaces : interfaceDocument d'.interfaces = interfaceDocument d.interfaces :=
    congrArg (fun t : Index String Value => Value.object t.entries)
      (Index.ofList_congr nodup' nodup fun e => perm.symm.mem_iff)
  cases h with
  | reordered _ =>
    rw [toDocument, interfaces]
    rfl

/-- A document tells all the settings of its device. -/
theorem entries_settings_eq (document : d'.toDocument = d.toDocument) :
    (Index.ofList d'.settings).entries = (Index.ofList d.settings).entries :=
  Value.object.inj document

/-- Devices with one document agree in every setting. -/
theorem setting_eq_of_toDocument (document : d'.toDocument = d.toDocument) (name : String)
    {v w : Value} (hv : (name, v) ∈ d.settings) (hw : (name, w) ∈ d'.settings) : w = v := by
  rw [← field_settings hv, ← field_settings hw, entries_settings_eq document]

/-- Devices with one document are twins. -/
theorem twin_of_toDocument (hp : d.Proper uid) (hs : d.Storable) (ht : d.Typed)
    (hp' : d'.Proper uid') (hs' : d'.Storable) (ht' : d'.Typed)
    (document : d'.toDocument = d.toDocument) : d.Twin d' := by
  have uids : Value.text d'.uid = .text d.uid :=
    setting_eq_of_toDocument document "id" (by simp [settings]) (by simp [settings])
  have kinds : Value.text d'.kind.name = .text d.kind.name :=
    setting_eq_of_toDocument document "kind" (by simp [settings]) (by simp [settings])
  have labels : d'.label = d.label :=
    setting_eq_of_toDocument document "label" (by simp [settings]) (by simp [settings])
  have states : Value.text d'.status.name = .text d.status.name :=
    setting_eq_of_toDocument document "status" (by simp [settings]) (by simp [settings])
  have interfaces : interfaceDocument d'.interfaces = interfaceDocument d.interfaces :=
    setting_eq_of_toDocument document "interfaceTable" (by simp [settings]) (by simp [settings])
  have start : Device.new d'.uid d'.kind d'.label .null d'.status =
      Device.new d.uid d.kind d.label .null d.status := by
    rw [Value.text.inj uids, Kind.eq_of_name (Value.text.inj kinds), labels,
      Status.eq_of_name (Value.text.inj states)]
  -- both devices are what is read from the document, but for the order of interfaces
  obtain ⟨r, hread, -⟩ := run_read_settings hp hs
  obtain ⟨r', hread', -⟩ := run_read_settings hp' hs'
  rw [entries_settings_eq document, start, hread] at hread'
  have back : d.withInterfaces r = d'.withInterfaces r' := (Prod.mk.inj hread').2
  have whole : d' = d.withInterfaces d'.interfaces :=
    congrArg (·.withInterfaces d'.interfaces) back.symm
  rw [whole]
  refine .reordered fun k => Option.ext fun i => ⟨fun there => ?_, fun there => ?_⟩
  · exact get?_of_interfaceDocument hp' hs' ht' hp hs ht interfaces.symm there
  · exact get?_of_interfaceDocument hp hs ht hp' hs' ht' interfaces there

end Device

/-! ## Networks -/

namespace Network

variable {n m : Network}

/-- The parts of a network as they are written. -/
def parts (n : Network) : Fields :=
  [("devices", .list (n.devices.values.map Device.toDocument)),
    ("links", .list (n.links.values.map Link.toDocument))]

/-- The document of a network tells the documents of its devices and links, in their order. -/
theorem toDocument_eq_iff : m.toDocument = n.toDocument ↔
    m.devices.values.map Device.toDocument = n.devices.values.map Device.toDocument ∧
      m.links.values.map Link.toDocument = n.links.values.map Link.toDocument := by
  constructor
  · intro document
    have entries : (Index.ofList m.parts).entries = (Index.ofList n.parts).entries :=
      Value.object.inj document
    have field : ∀ (x : Network) {e : String × Value}, e ∈ x.parts →
        Value.field e.1 (Index.ofList x.parts).entries = e.2 :=
      fun x _ h => Value.field_record (by simp [parts]) h
    have devices := field m (List.mem_cons_self ..)
    have links := field m (List.mem_cons_of_mem _ (List.mem_cons_self ..))
    rw [entries] at devices links
    exact ⟨Value.list.inj (devices.symm.trans (field n (List.mem_cons_self ..))),
      Value.list.inj (links.symm.trans
        (field n (List.mem_cons_of_mem _ (List.mem_cons_self ..))))⟩
  · rintro ⟨devices, links⟩
    rw [toDocument, toDocument, devices, links]

/-- Networks with one document, with the same devices in the same order and the same links, are
twins. -/
theorem twin_of_toDocument (hs : n.Storable) (ht : n.Typed) (hs' : m.Storable) (ht' : m.Typed)
    (document : m.toDocument = n.toDocument) (keys : m.devices.keys = n.devices.keys)
    (links : m.links = n.links) : n.Twin m := by
  obtain ⟨devices, -⟩ := toDocument_eq_iff.1 document
  refine ⟨links, keys, fun uid => ?_⟩
  have found := Roster.map_get?_eq keys devices uid
  cases hd : n.devices.get? uid with
  | none =>
    rw [hd] at found
    rw [Option.map_eq_none_iff.1 found]
    exact .none
  | some d =>
    rw [hd] at found
    obtain ⟨d', hd', same⟩ := Option.map_eq_some_iff.1 found
    rw [hd']
    exact .some (Device.twin_of_toDocument (hs.proper _ _ hd) (hs.devices _ _ hd) (ht _ _ hd)
      (hs'.proper _ _ hd') (hs'.devices _ _ hd') (ht' _ _ hd') same)

/-- Twins have one document. -/
theorem Twin.toDocument_eq (h : n.Twin m) (hs : n.Storable) : m.toDocument = n.toDocument := by
  have documents : n.Alike Device.toDocument m :=
    h.alike fun found twin => twin.toDocument_eq (hs.proper _ _ found) (hs.devices _ _ found)
  rw [toDocument, toDocument, documents.devices, h.links]

end Network

end NetLab
