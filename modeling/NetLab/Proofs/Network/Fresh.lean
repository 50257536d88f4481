import NetLab.Proofs.Network.Build
import NetLab.Proofs.Network.Numbering

set_option autoImplicit false

/-!
# Links that are named by numbers

A link that is added without an id is named by the first number that is free, so the search for one
always ends.  What an operation can do to the links is listed once (`Network.LinkChange`): no
operation but a reset or an import of a document takes the next number back, and so no number is
given out twice until then, whatever links and devices are removed and whatever ids are given in
between.
-/

namespace NetLab

namespace Network

variable {n m : Network}

/-! ## What operations do to links -/

/-- What an operation does to the links and to the number of the next one. -/
inductive LinkChange (n m : Network) : Prop where
  /-- the links stay -/
  | stay (links : m.links = n.links) (next : m.nextLink = n.nextLink)
  /-- some links go -/
  | drop (keep : Value → Link String → Bool) (links : m.links = n.links.filter keep)
      (next : m.nextLink = n.nextLink)
  /-- a link is put under an id that it is given -/
  | give (l : Link String) (links : m.links = n.links.put l.id.plain l)
      (next : m.nextLink = n.nextLink)
  /-- a link is put under a number, and the numbers up to it are used up -/
  | number (k : Nat) (a b : String) (start : n.nextLink ≤ k)
      (links : m.links = n.links.put (.text (Link.autoId k)) ⟨.text (Link.autoId k), a, b⟩)
      (next : m.nextLink = k + 1)

namespace LinkChange

theorem refl (n : Network) : n.LinkChange n := .stay rfl rfl

/-- An operation does not take numbers back. -/
theorem nextLink_le (h : n.LinkChange m) : n.nextLink ≤ m.nextLink := by
  cases h with
  | stay _ next => omega
  | drop _ _ next => omega
  | give _ _ next => omega
  | number k _ _ start _ next => omega

end LinkChange

theorem links_addDevice {e : Entry} {d : Device} (h : n.addDevice e = .ok (d, m)) :
    m.links = n.links ∧ m.nextLink = n.nextLink := by
  unfold addDevice at h
  dsimp only at h
  split at h
  · cases h
  · obtain ⟨kind, -, h⟩ := bind_eq_ok_iff.1 h
    obtain ⟨status, -, h⟩ := bind_eq_ok_iff.1 h
    split at h
    · obtain ⟨-, rfl⟩ : _ ∧ n = m := by simpa using h
      exact ⟨rfl, rfl⟩
    · obtain ⟨-, rfl⟩ : _ ∧ _ = m := by simpa using h
      exact ⟨rfl, rfl⟩

theorem linkChange_removeDevice (n : Network) (uid : String) :
    n.LinkChange (n.removeDevice uid) := by
  unfold removeDevice
  dsimp only
  split
  · exact .drop (fun _ l => !l.touches (Text.trim uid)) rfl rfl
  · exact .refl n

theorem linkChange_addLink {a b : String} {id given : Value}
    (h : n.addLink a b given = .ok (id, m)) : n.LinkChange m := by
  obtain ⟨-, -, ⟨-, rfl⟩ | ⟨-, k, -, -, rfl⟩⟩ := addLink_eq_ok h
  · obtain ⟨k, least, taken⟩ := n.takeLinkId_first []
    rw [taken]
    exact .number k _ _ least.1.1 rfl rfl
  · exact .give _ rfl rfl

theorem linkChange_removeLink {id : Value} (h : n.removeLink id = .ok m) : n.LinkChange m := by
  obtain rfl | ⟨k, -, rfl⟩ := removeLink_eq_ok h
  · exact .refl m
  · exact .drop (fun key _ => key ≠ k) rfl rfl

/-- Reading a device reaches no link. -/
theorem links_readDevice (fs : Fields) (n : Network) :
    ((readDevice fs).run n).2.links = n.links ∧
      ((readDevice fs).run n).2.nextLink = n.nextLink := by
  obtain same | ⟨entry, d, m, -, added, read⟩ := readDevice_cases fs n
  · rw [same]
    exact ⟨rfl, rfl⟩
  · obtain ⟨links, next⟩ := links_addDevice added
    rw [read]
    exact ⟨links, next⟩

theorem linkChange_readDevice (fs : Fields) (n : Network) :
    n.LinkChange ((readDevice fs).run n).2 := by
  obtain ⟨links, next⟩ := links_readDevice fs n
  exact .stay links next

/-- Neither a reset nor the import of a whole document: an operation after which the numbers go on
where they were. -/
def Operation.keepsNumbers : Operation → Bool
  | .reset | .importDocument _ => false
  | _ => true

theorem linkChange_apply (n : Network) {op : Operation} (keeps : op.keepsNumbers = true) :
    n.LinkChange (n.apply op) := by
  cases configures : op.configures with
  | true =>
    obtain same | ⟨uid, f, altered⟩ := n.altered_of_configures configures
    · rw [same]
      exact .refl n
    · rw [altered]
      exact .stay rfl rfl
  | false =>
    cases op with
    | reset => cases keeps
    | importDocument doc => cases keeps
    | addDevice e =>
      refine after_map_induction (.refl n) fun d m hm => ?_
      obtain ⟨links, next⟩ := links_addDevice hm
      exact .stay links next
    | removeDevice uid => exact linkChange_removeDevice n uid
    | addLink a b id => exact after_map_induction (.refl n) fun _ m hm => linkChange_addLink hm
    | removeLink id => exact after_induction (.refl n) fun m hm => linkChange_removeLink hm
    | importDevice doc =>
      cases doc with
      | object fs => exact linkChange_readDevice fs n
      | _ => exact .refl n
    | _ => cases configures

/-! ## Links stand under their ids -/

/-- Every link stands under its id. -/
def Keyed (n : Network) : Prop := ∀ k l, n.links.get? k = some l → l.id.plain = k

theorem keyed_empty : empty.Keyed := by
  intro k l h
  cases h

namespace Keyed

theorem put {l : Link String} {k : Value} (h : n.Keyed) (hm : m.links = n.links.put k l)
    (hk : l.id.plain = k) : m.Keyed := by
  rw [Keyed, hm]
  exact Roster.forall_put h hk

theorem change (h : n.Keyed) (hm : n.LinkChange m) : m.Keyed := by
  cases hm with
  | stay links _ =>
    intro k l hl
    rw [links] at hl
    exact h k l hl
  | drop keep links _ =>
    intro k l hl
    rw [links, Roster.get?_filter, Option.filter_eq_some_iff] at hl
    exact h k l hl.1
  | give l links _ => exact h.put links rfl
  | number k a b _ links _ => exact h.put links rfl

theorem importDocument (n : Network) (doc : Value) : (n.importDocument doc).2.Keyed := by
  refine importDocument_induction n doc keyed_empty
    (fun fs n hn => hn.change (linkChange_readDevice fs n)) fun reserved fs => ?_
  refine keeps_readLink reserved fs (fun n hn => hn) ?_
  exact fun n _ _ _ _ m _ _ _ hn hadd => hn.change (linkChange_addLink hadd)

theorem apply (h : n.Keyed) (op : Operation) : (n.apply op).Keyed := by
  cases keeps : op.keepsNumbers with
  | true => exact h.change (linkChange_apply n keeps)
  | false =>
    cases op with
    | reset => exact keyed_empty
    | importDocument doc => exact importDocument n doc
    | _ => cases keeps

/-- No link has an id that is no key. -/
theorem id_ne (h : n.Keyed) {id : String} (free : n.links.contains (.text id) = false) :
    ∀ l ∈ n.links.values, l.id ≠ .text id := by
  rintro l hl same
  obtain ⟨k, found⟩ := Roster.mem_values_iff.1 hl
  obtain rfl : Value.text id = k := by rw [← h k l found, same]; rfl
  rw [Roster.contains, found] at free
  cases free

end Keyed

/-- Whatever operations make has its links under their ids. -/
theorem keyed_build (ops : List Operation) : (build ops).Keyed :=
  build_induction keyed_empty fun _ h op _ => h.apply op

/-! ## Links without an id -/

/-- A link between two devices that is given no id is added under the first free number. -/
theorem addLink_null {a b : String} (source : n.devices.contains (Text.trim a) = true)
    (target : n.devices.contains (Text.trim b) = true) :
    ∃ k, IsLeast (n.freeNumbers []) k ∧ n.addLink a b .null = .ok (.text (Link.autoId k),
      { n with nextLink := k + 1 }.putLink ⟨.text (Link.autoId k), Text.trim a, Text.trim b⟩) := by
  obtain ⟨k, least, taken⟩ := n.takeLinkId_first []
  refine ⟨k, least, ?_⟩
  simp [addLink, source, target, taken, pure, Except.pure]

/-- A link between two devices was added under a number. -/
structure Numbered (n : Network) (a b : String) (k : Nat) (m : Network) : Prop where
  /-- The number is the first that names no link, from the next number on. -/
  first : IsLeast { j | n.nextLink ≤ j ∧ n.links.contains (.text (Link.autoId j)) = false } k
  /-- No link had the id. -/
  new : ∀ l ∈ n.links.values, l.id ≠ .text (Link.autoId k)
  /-- The links that were there stay, and the new one comes last. -/
  links : m.links.entries = n.links.entries ++
    [(.text (Link.autoId k), ⟨.text (Link.autoId k), Text.trim a, Text.trim b⟩)]
  devices : m.devices = n.devices
  next : m.nextLink = k + 1

/-- A link without an id can always be added between two devices. -/
theorem Keyed.numbered {a b : String} (h : n.Keyed)
    (source : n.devices.contains (Text.trim a) = true)
    (target : n.devices.contains (Text.trim b) = true) :
    ∃ k m, n.addLink a b .null = .ok (.text (Link.autoId k), m) ∧ n.Numbered a b k m := by
  obtain ⟨k, least, added⟩ := addLink_null source target
  have free : n.links.contains (.text (Link.autoId k)) = false := least.1.2.1
  have none : n.links.get? (.text (Link.autoId k)) = none := by
    simpa [Roster.contains] using free
  refine ⟨k, _, added, ?_, h.id_ne free, ?_, rfl, rfl⟩
  · simpa [freeNumbers] using least
  · exact Roster.entries_put_of_none none

/-! ## Runs -/

/-- The id that the operation gives out: it adds a link without an id, and does not fail. -/
def givenOut? (n : Network) : Operation → Option Value
  | .addLink a b .null =>
    match n.addLink a b .null with
    | .ok (id, _) => some id
    | .error _ => none
  | _ => none

/-- The ids that the operations give out, one after the other. -/
def givenOut : Network → List Operation → List Value
  | _, [] => []
  | n, op :: ops => (n.givenOut? op).toList ++ givenOut (n.apply op) ops

/-- What is given out is a number that was not reached before, and it is used up then. -/
theorem givenOut?_eq_some {op : Operation} {id : Value} (h : n.givenOut? op = some id) :
    ∃ k, id = .text (Link.autoId k) ∧ n.nextLink ≤ k ∧ (n.apply op).nextLink = k + 1 := by
  unfold givenOut? at h
  split at h
  · next a b =>
    split at h
    · next given m added =>
      obtain rfl := Option.some.inj h
      obtain ⟨source, target, -⟩ := addLink_eq_ok added
      obtain ⟨k, least, found⟩ := addLink_null source target
      obtain ⟨rfl, rfl⟩ := Prod.mk.inj (Except.ok.inj (added.symm.trans found))
      refine ⟨k, rfl, least.1.1, ?_⟩
      change (n.after ((n.addLink a b .null).map Prod.snd)).nextLink = k + 1
      rw [added]
      rfl
    · cases h
  · cases h

/-- Numbers are given out upwards. -/
theorem givenOut_increasing {run : List Operation} (keeps : ∀ op ∈ run, op.keepsNumbers = true) :
    ∃ numbers : List Nat, n.givenOut run = numbers.map (fun k => .text (Link.autoId k)) ∧
      numbers.Pairwise (· < ·) ∧ ∀ k ∈ numbers, n.nextLink ≤ k := by
  induction run generalizing n with
  | nil => exact ⟨[], rfl, .nil, List.forall_mem_nil _⟩
  | cons op run ih =>
    obtain ⟨here, later⟩ := List.forall_mem_cons.1 keeps
    obtain ⟨numbers, given, increasing, low⟩ := ih (n := n.apply op) later
    unfold givenOut
    rw [given]
    cases out : n.givenOut? op with
    | none =>
      have grows := (linkChange_apply n here).nextLink_le
      exact ⟨numbers, rfl, increasing, fun k hk => grows.trans (low k hk)⟩
    | some id =>
      obtain ⟨k, rfl, start, next⟩ := givenOut?_eq_some out
      refine ⟨k :: numbers, rfl, List.pairwise_cons.2 ⟨fun j hj => ?_, increasing⟩, ?_⟩
      · have := low j hj
        omega
      · refine List.forall_mem_cons.2 ⟨start, fun j hj => ?_⟩
        have := low j hj
        omega

/-- Whatever operations were done, and also where some of them failed: a link without an id can be
added between any two devices, under the first number that names no link, and nothing else changes.
From then on no number is given out twice until a reset or the import of a document, also where
links or devices are removed and links are given such ids in between. -/
theorem givenOut_fresh (ops : List Operation) :
    (∀ a b, (build ops).devices.contains (Text.trim a) = true →
      (build ops).devices.contains (Text.trim b) = true →
      ∃ k m, (build ops).addLink a b .null = .ok (.text (Link.autoId k), m) ∧
        (build ops).Numbered a b k m) ∧
      ∀ run : List Operation, (∀ op ∈ run, op.keepsNumbers = true) →
        ((build ops).givenOut run).Nodup := by
  refine ⟨fun a b source target => (keyed_build ops).numbered source target, fun run keeps => ?_⟩
  obtain ⟨numbers, given, increasing, -⟩ := givenOut_increasing (n := build ops) keeps
  rw [given]
  refine increasing.map _ fun j k less same => ?_
  have := Link.autoId_injective (Value.text.inj same)
  omega

/-- Numbers that fall on an id that was given are passed over, and a number whose link is gone does
not come back. -/
theorem givenOut_fresh_removed :
    let ops : List Operation := [
      .addDevice { uid := "R1", kind := .text "ROUTER" },
      .addDevice { uid := "P1", kind := .text "PC" },
      .addLink "R1" "P1" (.text "L2")]
    let run : List Operation := [
      .addLink "R1" "P1" .null,
      .addLink "P1" " R1" .null,
      .removeLink (.text "L3"),
      .addLink "R1" "P1" .null,
      .removeDevice "P1",
      .addLink "R1" "P1" .null,
      .addDevice { uid := "P1", kind := .text "PC" },
      .addLink "R1" "P1" (.text "L5"),
      .addLink "R1" "P1" .null]
    (∃ k m, (build ops).addLink "R1" " P1" .null = .ok (.text (Link.autoId k), m) ∧
      (build ops).Numbered "R1" " P1" k m) ∧
    (build ops).givenOut run = [.text "L1", .text "L3", .text "L4", .text "L6"] ∧
    ((build ops).givenOut run).Nodup := by
  intro ops run
  obtain ⟨added, fresh⟩ := givenOut_fresh ops
  refine ⟨added "R1" " P1" (by decide +kernel) (by decide +kernel), by decide +kernel, ?_⟩
  exact fresh run (by decide)

end Network

end NetLab
