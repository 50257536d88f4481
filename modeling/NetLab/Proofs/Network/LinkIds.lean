import NetLab.Proofs.Network.Fresh
import NetLab.Proofs.Network.ReadLinks

set_option autoImplicit false

/-!
# Ids of the links of a document

A document whose devices can be read, whose links join devices and which gives no link id twice is
imported as a whole (`Network.importDocument_links`).  Every link keeps the id that it is given.
The others are named by numbers that go up in the order of the document and fall on no id that is
given anywhere in it.
-/

namespace NetLab

open Reading

/-- The ids of the links whose records give none, in the order of the records. -/
def generatedIds (records : List Fields) (ls : List (Link String)) : List Value :=
  ((records.zip ls).filter fun p => p.1.linkId?.isNone).map fun p => p.2.id

/-- The numbers of the links that are not given an id go up, and fall on no id that is kept back.
The induction is on the reading of the links: the numbers behind a link start above its own. -/
theorem LinksRead.numbers {reserved : List String} {k next : Nat} {records : List Fields}
    {ls : List (Link String)} (h : LinksRead reserved k records ls next) :
    ∃ numbers : List Nat, generatedIds records ls = numbers.map (fun j => .text (Link.autoId j)) ∧
      numbers.Pairwise (· < ·) ∧ ∀ j ∈ numbers, k ≤ j ∧ Link.autoId j ∉ reserved := by
  induction h with
  | nil k => exact ⟨[], rfl, .nil, List.forall_mem_nil _⟩
  | given named ends behind ih =>
    obtain ⟨numbers, generated, increasing, low⟩ := ih
    refine ⟨numbers, ?_, increasing, low⟩
    rw [← generated]
    simp [generatedIds, named]
  | @numbered k j next fs rest a b ls unnamed ends start apart behind ih =>
    obtain ⟨numbers, generated, increasing, low⟩ := ih
    refine ⟨j :: numbers, ?_, List.pairwise_cons.2 ⟨fun i hi => (low i hi).1, increasing⟩, ?_⟩
    · rw [List.map_cons, ← generated]
      simp [generatedIds, unnamed]
    · refine List.forall_mem_cons.2 ⟨⟨start, apart⟩, fun i hi => ?_⟩
      obtain ⟨behind, apart⟩ := low i hi
      exact ⟨by omega, apart⟩

namespace Network

variable {n m : Network}

/-- The network has the links of a document: one for each record, in their order. -/
structure HasLinks (n : Network) (records : List Fields) : Prop where
  /-- The links stand under their ids, so these are different. -/
  keys : n.links.keys = n.links.values.map Link.id
  different : (n.links.values.map Link.id).Nodup
  /-- Every link has the ends that its record names, and the id that the record gives. -/
  read : List.Forall₂ Fields.ReadAs records n.links.values
  /-- The other ids are numbers that go up and fall on no id that a record gives. -/
  numbers : ∃ numbers : List Nat,
    generatedIds records n.links.values = numbers.map (fun k => .text (Link.autoId k)) ∧
      numbers.Pairwise (· < ·) ∧
      ∀ k ∈ numbers, 0 < k ∧ Link.autoId k ∉ records.filterMap Fields.linkId?

/-- Reading devices reaches no link. -/
theorem links_readDevices (records : List Fields) :
    Keeps (fun m => m.links = n.links ∧ m.nextLink = n.nextLink) (readDevices records) := by
  refine keeps_readDevices fun fs _ m hm => ?_
  obtain ⟨links, next⟩ := links_readDevice fs m
  exact ⟨links.trans hm.1, next.trans hm.2⟩

/-- Links that were read into a network without links, from the number 1 on. -/
theorem hasLinks_of_linksRead {records : List Fields} {ls : List (Link String)} {next : Nat}
    (links : n.links.entries = ls.map fun l => (l.id, l))
    (read : LinksRead (records.filterMap Fields.linkId?) 1 records ls next) :
    n.HasLinks records := by
  have values : n.links.values = ls := by
    rw [Roster.values, links, List.map_map]
    exact List.map_id _
  have keys : n.links.keys = n.links.values.map Link.id := by
    rw [Roster.keys, links, values, List.map_map]
    rfl
  refine ⟨keys, ?_, ?_, ?_⟩
  · rw [← keys]
    exact n.links.nodup
  · rw [values]
    exact read.readAs
  · obtain ⟨numbers, generated, increasing, low⟩ := read.numbers
    rw [values]
    refine ⟨numbers, generated, increasing, fun k hk => ?_⟩
    obtain ⟨start, apart⟩ := low k hk
    exact ⟨by omega, apart⟩

/-- A document whose devices are read, whose links all join two of them and which gives no link id
twice is imported, whatever network was there: the devices are those that are read, and the links
are those of the document, with the ids that they are given and with new numbers. -/
theorem importDocument_links (n : Network) {fs : Fields} {devices links : List Fields}
    (hdevices : (Value.field "devices" fs).records = .ok devices)
    (hlinks : (Value.field "links" fs).records = .ok links)
    (imported : (readDevices devices).run empty = (.ok (), m))
    (joined : ∀ l ∈ links, ∃ a b, Fields.Joins l a b ∧ m.devices.contains a = true ∧
      m.devices.contains b = true)
    (different : (links.filterMap Fields.linkId?).Nodup) :
    ∃ r, n.importDocument (.object fs) = (.ok (), r) ∧ r.devices = m.devices ∧
      r.HasLinks links := by
  have start := links_readDevices (n := empty) devices empty ⟨rfl, rfl⟩
  rw [imported] at start
  obtain ⟨noLinks, first⟩ : m.links = Roster.empty ∧ m.nextLink = 1 := start
  obtain ⟨r, ls, run, same, entries, behind⟩ := run_readLinks (n := m) joined different
    (fun _ hid => hid) fun _ _ => by rw [noLinks]; rfl
  rw [noLinks] at entries
  rw [first] at behind
  refine ⟨r, ?_, same, hasLinks_of_linksRead entries behind⟩
  unfold importDocument read
  rw [run_bind_of_ok (run_set _ _)]
  dsimp only
  rw [run_lift_bind hdevices, run_bind_of_ok imported, run_lift_bind hlinks]
  exact run

/-- Links without an id, with none and with an empty one pass over the number that is given last. -/
theorem importDocument_links_mixed :
    let ends : Fields := [("sourceId", .text "R1 "), ("targetId", .text "P1")]
    let devices : List Fields := [
      [("id", .text "R1"), ("kind", .text "ROUTER")],
      [("id", .text " P1"), ("kind", .text "PC")]]
    let links : List Fields :=
      [ends, ("id", .text "L7") :: ends, ("id", .null) :: ends, ("id", .text "") :: ends,
        ("id", .text "L2") :: ends]
    let fs : Fields :=
      [("devices", .list (devices.map .object)), ("links", .list (links.map .object))]
    ∃ r, empty.importDocument (.object fs) = (.ok (), r) ∧ r.HasLinks links ∧
      r.links.values.map Link.id =
        [.text "L1", .text "L7", .text "L3", .text "L4", .text "L2"] := by
  intro ends devices links fs
  let reading : Except Fault Unit × Network := (readDevices devices).run empty
  have done : reading.1 = .ok () := by decide +kernel
  let m : Network := reading.2
  have imported : (readDevices devices).run empty = (.ok (), m) := Prod.ext done rfl
  have ends : ∀ l ∈ links, Fields.required "sourceId" l = .ok (.text "R1 ") ∧
      Fields.required "targetId" l = .ok (.text "P1") := by decide +kernel
  have joined : ∀ l ∈ links, ∃ a b, Fields.Joins l a b ∧ m.devices.contains a = true ∧
      m.devices.contains b = true := by
    intro l hl
    obtain ⟨source, target⟩ := ends l hl
    exact ⟨"R1", "P1", ⟨⟨_, source, by decide +kernel⟩, ⟨_, target, by decide +kernel⟩⟩,
      by decide +kernel, by decide +kernel⟩
  have hdevices : (Value.field "devices" fs).records = .ok devices := by decide +kernel
  have hlinks : (Value.field "links" fs).records = .ok links := by decide +kernel
  obtain ⟨r, run, -, has⟩ :=
    importDocument_links empty hdevices hlinks imported joined (by decide +kernel)
  refine ⟨r, run, has, ?_⟩
  obtain rfl : (empty.importDocument (.object fs)).2 = r := by rw [run]
  decide +kernel

end Network

end NetLab
