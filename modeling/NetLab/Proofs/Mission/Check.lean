import NetLab.Mission.Catalogue
import NetLab.Proofs.Collection.Roster
import NetLab.Proofs.Fault

set_option autoImplicit false

/-!
# The tests of the missions

Every step of the catalogue asks for one of a few tests (`Mission.listed_of_mem`).  All of them but
one always answer; the one that looks at addresses does so if the management address of every PC is
a text, where it has one (`Network.Addressable`).
-/

namespace NetLab

/-- Whatever management address a PC has is a text. -/
def Network.Addressable (n : Network) : Prop :=
  ∀ d ∈ n.devices.values, d.kind = .pc → d.address.given = true → ∃ s, d.address = .text s

namespace Mission

namespace Check

variable {n : Network}

/-! ## Addresses -/

/-- The management address of the device is a text with this beginning. -/
def startsWith (start : String) (d : Device) : Bool :=
  match d.address with
  | .text s => s != "" && start.toList.isPrefixOf s.toList
  | _ => false

/-- Looking at the beginning of an address gives an answer unless it is given and no text. -/
theorem addressStarts_cases (start : String) (d : Device) :
    (d.address.given = true → ∃ s, d.address = .text s) ∧
        addressStarts start d = .ok (startsWith start d) ∨
      (d.address.given = true ∧ ∀ s, d.address ≠ .text s) ∧
        addressStarts start d = .error .wrongShape := by
  rw [addressStarts, startsWith]
  cases d.address with
  | text s => exact Or.inl ⟨fun _ => ⟨s, rfl⟩, rfl⟩
  | _ =>
    dsimp only
    split
    · next given => exact Or.inr ⟨⟨given, nofun⟩, rfl⟩
    · next missing => exact Or.inl ⟨fun given => absurd given missing, rfl⟩

/-- The number of PCs whose management address has the beginning that the office asks for. -/
def inOffice (n : Network) : Nat :=
  n.devices.values.countP fun d => d.kind = .pc && startsWith "192.168.1." d

theorem startupAddressed_of_addressable (h : n.Addressable) :
    startupAddressed n = .ok (decide (2 ≤ inOffice n)) := by
  have answers : ∀ d ∈ ofKind n .pc,
      addressStarts "192.168.1." d = .ok (startsWith "192.168.1." d) := by
    intro d hd
    obtain ⟨there, kind⟩ := List.mem_filter.1 hd
    rcases addressStarts_cases "192.168.1." d with ⟨-, answer⟩ | ⟨⟨given, noText⟩, -⟩
    · exact answer
    · obtain ⟨s, hs⟩ := h d there (by simpa using kind) given
      exact absurd hs (noText s)
  have count : ((ofKind n .pc).map (startsWith "192.168.1.")).count true = inOffice n := by
    rw [inOffice, ofKind, List.count, List.countP_map, List.countP_filter]
    refine List.countP_congr fun d _ => ?_
    simp [and_comm]
  rw [startupAddressed, mapM_eq_ok_of_forall answers, ← count]
  rfl

theorem startupAddressed_eq_error (h : ¬ n.Addressable) :
    startupAddressed n = .error .wrongShape := by
  have only : ∀ d ∈ ofKind n .pc, Succeeds (addressStarts "192.168.1." d) ∨
      addressStarts "192.168.1." d = .error .wrongShape := by
    intro d _
    rcases addressStarts_cases "192.168.1." d with ⟨-, answer⟩ | ⟨-, fault⟩
    · exact Or.inl ⟨_, answer⟩
    · exact Or.inr fault
  have fails : ∃ d ∈ ofKind n .pc, addressStarts "192.168.1." d = .error .wrongShape := by
    by_contra none
    refine h fun d hd kind given => ?_
    have pc : d ∈ ofKind n .pc := List.mem_filter.2 ⟨hd, by simpa using kind⟩
    rcases addressStarts_cases "192.168.1." d with ⟨text, -⟩ | ⟨-, fault⟩
    · exact text given
    · exact absurd ⟨d, pc, fault⟩ none
  rw [startupAddressed, mapM_eq_error only fails]
  rfl

/-! ## The catalogue -/

/-- The tests for which the steps of the catalogue ask. -/
inductive Listed : Check → Prop where
  | startupCabled : Listed startupCabled
  | startupAddressed : Listed startupAddressed
  | startupGateway : Listed startupGateway
  | vlans (vs : List Int) : Listed (vlans vs)
  | separationDevices : Listed separationDevices
  | separationPorts : Listed separationPorts
  | spineLeafDevices : Listed spineLeafDevices
  | spineLeafMesh : Listed spineLeafMesh

/-- A test always answers, unless it is the one that looks at addresses. -/
theorem Listed.answers {c : Check} (h : c.Listed) :
    (∀ n, Succeeds (c n)) ∨ c = Check.startupAddressed := by
  cases h with
  | startupAddressed => exact Or.inr rfl
  | _ => exact Or.inl fun _ => succeeds_ok _

theorem Listed.succeeds {c : Check} (h : c.Listed) (hn : n.Addressable) : Succeeds (c n) := by
  rcases h.answers with always | rfl
  · exact always n
  · exact ⟨_, startupAddressed_of_addressable hn⟩

end Check

theorem listed_of_mem {m : Mission} (hm : m ∈ Mission.all) {s : Step} (hs : s ∈ m.steps) :
    s.check.Listed := by
  have every : ∀ m ∈ Mission.all, ∀ s ∈ m.steps, s.check.Listed := by
    simp only [Mission.all, startupOffice, departmentSeparation, dataCenter,
      List.forall_mem_cons, List.not_mem_nil, false_implies, implies_true, and_true]
    exact ⟨⟨.startupCabled, .startupAddressed, .startupGateway, .vlans _⟩,
      ⟨.separationDevices, .vlans _, .separationPorts⟩, .spineLeafDevices, .spineLeafMesh⟩
  exact every m hm s hs

end Mission

end NetLab
