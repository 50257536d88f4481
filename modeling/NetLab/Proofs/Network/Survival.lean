import NetLab.Proofs.Network.Call
import NetLab.Proofs.Network.Document

set_option autoImplicit false

/-!
# What comes back of a network that calls made

The document of a network that calls made is always read, with the devices and the links in their
order.  What it cannot hold is an empty text: an empty host name comes back as the id of the device,
an empty management address as none, and an empty link id as a number that names no other link.  So
the document is the same again exactly if none of these is stored, which is the case as long as no
call gives one.
-/

namespace NetLab

open Reading

variable {full : Prop}

/-! ## Devices -/

namespace Device.Stored

variable {d : Device}

theorem legible (h : d.Stored full) : d.Legible := by
  obtain ⟨name, hostname, -⟩ := h.hostname
  exact ⟨⟨name, hostname⟩, h.displayVlan, h.vlans, h.interfaces, h.lines⟩

/-- A device that calls stored has its document again exactly if nothing of it has to be filled
in. -/
theorem toDocument_filled_eq_iff (h : d.Stored full) (named : d.uid ≠ "") :
    d.filled.toDocument = d.toDocument ↔ d.hostname ≠ .text "" ∧ d.address ≠ .text "" := by
  constructor
  · intro document
    refine ⟨fun hostname => ?_, fun address => ?_⟩
    · have same : d.filled.hostname = d.hostname := setting_eq_of_toDocument document "hostname"
        (by simp [settings]) (by simp [settings])
      have back : d.filled.hostname = .text d.uid := by
        rw [filled, h.label, hostname]
        rfl
      rw [back, hostname] at same
      exact named (Value.text.inj same)
    · have same : d.filled.address = d.address := setting_eq_of_toDocument document "managementIp"
        (by simp [settings]) (by simp [settings])
      have back : d.filled.address = .null := by
        rw [filled, address]
        rfl
      rw [back, address] at same
      cases same
  · rintro ⟨hostname, address⟩
    rw [(h.storable hostname address).filled_eq]

end Device.Stored

/-! ## Links -/

namespace Link

variable {l : Link String} {number : Nat}

/-- The link as it comes back from its document: a number stands in for an id that is not given. -/
def filled (number : Nat) (l : Link String) : Link String :=
  if l.id.given then l else { l with id := .text (autoId number) }

theorem filled_of_given (h : l.id.given = true) : l.filled number = l := if_pos h

theorem filled_of_empty (h : l.id.given = false) :
    l.filled number = { l with id := .text (autoId number) } := if_neg (by simp [h])

theorem filled_of_ne {id : String} (h : l.id = .text id) (named : l.id ≠ .text "") :
    l.filled number = l :=
  filled_of_given ((given_id h).2 fun empty => named (by rw [h, empty]))

/-- A link has its id again exactly if that is not empty. -/
theorem id_filled_eq_iff {id : String} (h : l.id = .text id) :
    (l.filled number).id = l.id ↔ l.id ≠ .text "" := by
  constructor
  · intro same empty
    rw [filled_of_empty (by simp [empty, Value.given]), empty] at same
    exact autoId_ne_empty number (Value.text.inj same)
  · intro named
    rw [filled_of_ne h named]

/-- A link has its document again exactly if its id is not empty. -/
theorem toDocument_filled_eq_iff {id : String} (h : l.id = .text id) :
    (l.filled number).toDocument = l.toDocument ↔ l.id ≠ .text "" := by
  constructor
  · intro document
    have entries : (Index.ofList (l.filled number).settings).entries =
        (Index.ofList l.settings).entries := Value.object.inj document
    have same : (l.filled number).id = l.id := by rw [← field_id, entries, field_id]
    exact (id_filled_eq_iff h).1 same
  · intro named
    rw [filled_of_ne h named]

end Link

namespace Network

variable {n m : Network}

/-- Links with different ids are read as they were written, filled in.  Only one of them can have an
empty id, so one number does for all of them. -/
theorem Proper.filled_of_linksRead (h : n.Proper) {ls rs : List (Link String)}
    {reserved : List String} {k next : Nat} (stored : ∀ l ∈ ls, ∃ id, l.id = .text id)
    (joined : ∀ l ∈ ls, n.devices.contains l.source = true ∧ n.devices.contains l.target = true)
    (different : (ls.map Link.id).Nodup)
    (read : LinksRead reserved k (ls.map fun l => (Index.ofList l.settings).entries) rs next) :
    ∃ number, Link.autoId number ∉ reserved ∧ rs = ls.map (Link.filled number) := by
  induction ls generalizing k rs with
  | nil =>
    obtain ⟨number, ⟨⟨-, -, apart⟩, -⟩, -⟩ := empty.takeLinkId_first reserved
    cases read
    exact ⟨number, apart, rfl⟩
  | cons l ls ih =>
    obtain ⟨⟨id, hid⟩, stored⟩ := List.forall_mem_cons.1 stored
    obtain ⟨⟨source, target⟩, joined⟩ := List.forall_mem_cons.1 joined
    obtain ⟨other, different⟩ := List.nodup_cons.1 different
    have joins := h.joins source target
    cases read with
    | given named ends behind =>
      obtain ⟨number, apart, rfl⟩ := ih stored joined different behind
      have given : l.id.given = true := by
        by_contra missing
        rw [Link.linkId?_settings_of_empty (by simpa using missing)] at named
        cases named
      obtain rfl : id = _ := Option.some.inj
        ((Link.linkId?_settings hid ((Link.given_id hid).1 given)).symm.trans named)
      obtain ⟨rfl, rfl⟩ := ends.unique joins
      refine ⟨number, apart, ?_⟩
      rw [List.map_cons, Link.filled_of_given given, ← hid]
    | @numbered _ j _ _ _ a b _ unnamed ends _ apart behind =>
      obtain ⟨later, -, rfl⟩ := ih stored joined different behind
      have missing : l.id.given = false := by
        by_contra given
        have named := (Link.given_id hid).1 (by simpa using given)
        rw [Link.linkId?_settings hid named] at unnamed
        cases unnamed
      have empty : id = "" := by simpa [hid, Value.given] using missing
      have same : ∀ x ∈ ls, x.filled later = x.filled j := by
        intro x hx
        obtain ⟨y, hy⟩ := stored x hx
        have given : x.id.given = true := (Link.given_id hy).2 fun hempty =>
          other (List.mem_map.2 ⟨x, hx, by rw [hy, hid, hempty, empty]⟩)
        rw [Link.filled_of_given given, Link.filled_of_given given]
      obtain ⟨rfl, rfl⟩ := ends.unique joins
      refine ⟨j, apart, ?_⟩
      rw [List.map_cons, Link.filled_of_empty missing, List.map_congr_left same]

/-! ## Networks -/

/-- No host name, no management address and no link id that is stored is an empty text. -/
structure NoEmpty (n : Network) : Prop where
  hostnames : ∀ d ∈ n.devices.values, d.hostname ≠ .text ""
  addresses : ∀ d ∈ n.devices.values, d.address ≠ .text ""
  linkIds : ∀ l ∈ n.links.values, l.id ≠ .text ""

theorem Stored.noEmpty (h : n.Stored full) (hfull : full) : n.NoEmpty where
  hostnames := by
    intro d hd empty
    obtain ⟨uid, found⟩ := Roster.mem_values_iff.1 hd
    obtain ⟨name, hname, named⟩ := (h.devices uid d found).hostname
    exact named hfull (Value.text.inj (hname.symm.trans empty))
  addresses := by
    intro d hd
    obtain ⟨uid, found⟩ := Roster.mem_values_iff.1 hd
    exact (h.devices uid d found).addressed hfull
  linkIds := by
    intro l hl empty
    obtain ⟨k, found⟩ := Roster.mem_values_iff.1 hl
    obtain ⟨id, hid, named⟩ := h.linkIds k l found
    exact named hfull (Value.text.inj (hid.symm.trans empty))

/-- What is read from the document of a network, beside the network. -/
structure ComesBack (n m : Network) : Prop where
  /-- The devices are the same in the same order, but for empty texts. -/
  devices : m.devices.keys = n.devices.keys ∧ m.devices.values.map Device.toDocument =
    n.devices.values.map fun d => d.filled.toDocument
  /-- The links are the same in the same order, but for an empty id.  The number that stands in for
  it names no other link. -/
  links : ∃ number, n.links.contains (.text (Link.autoId number)) = false ∧
    m.links.values = n.links.values.map (Link.filled number)
  /-- The document is the same again exactly if no empty text is stored. -/
  document : m.toDocument = n.toDocument ↔ n.NoEmpty
  /-- Every link keeps its id exactly if no link id is empty. -/
  linkIds : m.links.values.map Link.id = n.links.values.map Link.id ↔
    ∀ l ∈ n.links.values, l.id ≠ .text ""

/-- The id of a link is kept back while the links are read, unless it is empty. -/
theorem mem_explicitIds {ls : List (Link String)} {l : Link String} (hl : l ∈ ls) {id : String}
    (hid : l.id = .text id) (named : id ≠ "") :
    id ∈ explicitIds (ls.map fun l => (Index.ofList l.settings).entries) :=
  List.mem_filterMap.2 ⟨_, List.mem_map_of_mem hl, Link.linkId?_settings hid named⟩

theorem Stored.text_id (h : n.Stored full) {l : Link String} (hl : l ∈ n.links.values) :
    ∃ id, l.id = .text id := by
  obtain ⟨k, found⟩ := Roster.mem_values_iff.1 hl
  obtain ⟨id, hid, -⟩ := h.linkIds k l found
  exact ⟨id, hid⟩

/-- Links stand under their ids. -/
theorem Stored.map_id (h : n.Stored full) (intact : n.Intact) :
    n.links.values.map Link.id = n.links.keys := by
  rw [Roster.values, Roster.keys, List.map_map]
  refine List.map_congr_left fun e he => ?_
  have found := Roster.get?_eq_some_iff.2 he
  obtain ⟨id, hid, -⟩ := h.linkIds e.1 e.2 found
  rw [Function.comp_apply, ← (intact.links e.1 e.2 found).1, hid]
  rfl

/-- The links are read into a network that has the devices. -/
theorem Stored.run_readLinks (h : n.Stored full) (intact : n.Intact) (hm : m.Proper)
    (keys : m.devices.keys = n.devices.keys) (noLinks : m.links = Roster.empty) :
    let links := n.links.values.map fun l => (Index.ofList l.settings).entries
    ∃ number last, (readLinks (explicitIds links) links).run m = (.ok (), last) ∧
      last.devices = m.devices ∧ n.links.contains (.text (Link.autoId number)) = false ∧
      last.links.values = n.links.values.map (Link.filled number) := by
  have joined : ∀ l ∈ n.links.values,
      m.devices.contains l.source = true ∧ m.devices.contains l.target = true := by
    intro l hl
    obtain ⟨k, found⟩ := Roster.mem_values_iff.1 hl
    obtain ⟨-, source, target⟩ := intact.links k l found
    exact ⟨(Roster.contains_congr keys _).trans source,
      (Roster.contains_congr keys _).trans target⟩
  have different : (n.links.values.map Link.id).Nodup := by
    rw [h.map_id intact]
    exact n.links.nodup
  obtain ⟨last, rs, run, devices, links, read⟩ :=
    hm.run_readLinks noLinks (fun l hl => h.text_id hl) joined different
  obtain ⟨number, apart, rfl⟩ :=
    hm.filled_of_linksRead (fun l hl => h.text_id hl) joined different read
  refine ⟨number, last, run, devices, ?_, ?_⟩
  · rw [Bool.eq_false_iff]
    intro taken
    obtain ⟨l, found⟩ := Roster.contains_iff.1 taken
    obtain ⟨id, hid, -⟩ := h.linkIds _ l found
    have same : Value.text id = .text (Link.autoId number) := by
      rw [← (intact.links _ l found).1, hid]
      rfl
    obtain rfl := Value.text.inj same
    exact apart (mem_explicitIds (Roster.mem_values_iff.2 ⟨_, found⟩) hid
      (Link.autoId_ne_empty number))
  · rw [Roster.values, links, List.map_map]
    exact List.map_id _

/-- What was filled in shows in the document. -/
theorem Stored.toDocument_eq_iff (h : n.Stored full) (hn : n.Proper) {number : Nat}
    (devices : m.devices.values.map Device.toDocument =
      n.devices.values.map fun d => d.filled.toDocument)
    (links : m.links.values = n.links.values.map (Link.filled number)) :
    m.toDocument = n.toDocument ↔ n.NoEmpty := by
  have device : ∀ d ∈ n.devices.values, d.filled.toDocument = d.toDocument ↔
      d.hostname ≠ .text "" ∧ d.address ≠ .text "" := by
    intro d hd
    obtain ⟨uid, found⟩ := Roster.mem_values_iff.1 hd
    have named : d.uid ≠ "" := (hn uid d found).uid ▸ (hn uid d found).named
    exact (h.devices uid d found).toDocument_filled_eq_iff named
  have link : ∀ l ∈ n.links.values, (l.filled number).toDocument = l.toDocument ↔
      l.id ≠ .text "" := by
    intro l hl
    obtain ⟨id, hid⟩ := h.text_id hl
    exact Link.toDocument_filled_eq_iff hid
  rw [Network.toDocument_eq_iff, devices, links, List.map_map, List.map_inj_left,
    List.map_inj_left]
  constructor
  · rintro ⟨sameDevices, sameLinks⟩
    have given := fun d hd => (device d hd).1 (sameDevices d hd)
    exact ⟨fun d hd => (given d hd).1, fun d hd => (given d hd).2,
      fun l hl => (link l hl).1 (sameLinks l hl)⟩
  · rintro ⟨hostnames, addresses, linkIds⟩
    exact ⟨fun d hd => (device d hd).2 ⟨hostnames d hd, addresses d hd⟩,
      fun l hl => (link l hl).2 (linkIds l hl)⟩

/-- Whatever calls stored comes back. -/
theorem Stored.comesBack (h : n.Stored full) (intact : n.Intact) :
    ∃ m, ofDocument n.toDocument = .ok m ∧ n.ComesBack m := by
  obtain ⟨r, hdevices, proper, keys, devices⟩ := intact.proper.run_readDevices
    fun uid d hd => (h.devices uid d hd).legible
  obtain ⟨number, m, hlinks, same, free, links⟩ := h.run_readLinks intact proper keys rfl
  have run : Network.empty.importDocument n.toDocument = (.ok (), m) := by
    rw [importDocument_toDocument, run_bind_of_ok hdevices, hlinks]
  rw [← show m.devices = r from same] at keys devices
  refine ⟨m, by rw [ofDocument, run], ⟨keys, devices⟩, ⟨number, free, links⟩,
    h.toDocument_eq_iff intact.proper devices links, ?_⟩
  rw [links, List.map_map, List.map_inj_left]
  refine forall₂_congr fun l hl => ?_
  obtain ⟨id, hid⟩ := h.text_id hl
  exact Link.id_filled_eq_iff hid

/-- Whatever calls make comes back from its document, also where some of them failed; and nothing of
it changes as long as no call gives an empty text for a host name, for the management address of a
device that is added, or for a link id. -/
theorem comesBack_of_calls (calls : List Call) :
    let n := build (calls.map Call.operation)
    (∃ m, ofDocument n.toDocument = .ok m ∧ n.ComesBack m) ∧
      ((∀ c ∈ calls, c.givesEmpty = false) → n.NoEmpty) := by
  intro n
  have given : (∀ c ∈ calls, c.givesEmpty = false) → ∀ c ∈ calls, c.givesEmpty = false := id
  obtain ⟨intact, stored⟩ := stored_build given
  exact ⟨stored.comesBack intact, stored.noEmpty⟩

/-- A device that is added with an empty management address comes back without one. -/
theorem comesBack_of_calls_empty_address :
    let n := build ([Call.addDevice "R1" "ROUTER" none (some "") "up"].map Call.operation)
    ∃ m, ofDocument n.toDocument = .ok m ∧ n.ComesBack m ∧ m.toDocument ≠ n.toDocument := by
  intro n
  obtain ⟨⟨m, read, back⟩, -⟩ :=
    comesBack_of_calls [Call.addDevice "R1" "ROUTER" none (some "") "up"]
  refine ⟨m, read, back, fun same => ?_⟩
  have stored : ∃ d ∈ n.devices.values, d.address = .text "" := by decide +kernel
  obtain ⟨d, hd, empty⟩ := stored
  exact (back.document.1 same).addresses d hd empty

end Network

end NetLab
