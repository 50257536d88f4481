import NetLab.Proofs.Fault
import NetLab.Proofs.Schema.Checked
import NetLab.Schema.Topology

set_option autoImplicit false

/-!
# Accepted documents

What the types of a document do not say of it: wherever a document that was accepted holds VLAN ids,
these are in their range, and what stands in it as a text to be read as an id can be.
-/

namespace NetLab.Schema

open Checked

/-- The VLAN ids of an interface are in their range. -/
structure InterfaceDoc.Valid (i : InterfaceDoc) : Prop where
  accessVlan : minVlan ≤ i.accessVlan ∧ i.accessVlan ≤ maxVlan
  nativeVlan : minVlan ≤ i.nativeVlan ∧ i.nativeVlan ≤ maxVlan

/-- The VLAN ids of a device are in their range. -/
structure DeviceDoc.Valid (d : DeviceDoc) : Prop where
  vlans : ∀ e ∈ d.vlans, ∀ vlan, readNumeral e.1 = .ok vlan → minVlan ≤ vlan ∧ vlan ≤ maxVlan
  interfaces : ∀ e ∈ d.interfaces, e.2.Valid

theorem defaulted_vlanId {name : String} {fs : List (String × Value)} {vlan : Int}
    (h : defaulted name 1 vlanId fs = .ok vlan) : minVlan ≤ vlan ∧ vlan ≤ maxVlan := by
  obtain rfl | ⟨v, hv⟩ := defaulted_eq_ok h
  · decide
  · exact integerWithin_eq_ok hv

theorem valid_interfaceDoc {v : Value} {i : InterfaceDoc} (h : interfaceDoc v = .ok i) :
    i.Valid := by
  obtain ⟨fs, -, h₀⟩ := model_eq_ok h
  obtain ⟨_, native, h₁, hnative, rfl⟩ := and_eq_ok.1 h₀
  obtain ⟨_, _, h₂, _, rfl⟩ := and_eq_ok.1 h₁
  obtain ⟨_, access, h₃, haccess, rfl⟩ := and_eq_ok.1 h₂
  obtain ⟨_, _, h₄, _, rfl⟩ := and_eq_ok.1 h₃
  obtain ⟨_, _, h₅, _, rfl⟩ := and_eq_ok.1 h₄
  obtain ⟨_, _, h₆, _, rfl⟩ := and_eq_ok.1 h₅
  obtain ⟨_, _, h₇, _, rfl⟩ := and_eq_ok.1 h₆
  obtain ⟨_, _, h₈, _, rfl⟩ := and_eq_ok.1 h₇
  cases h₈
  exact ⟨defaulted_vlanId haccess, defaulted_vlanId hnative⟩

theorem vlanKeyFault_eq_none {key : String} (h : vlanKeyFault key = none) {vlan : Int}
    (hvlan : readNumeral key = .ok vlan) : minVlan ≤ vlan ∧ vlan ≤ maxVlan := by
  rw [vlanKeyFault] at h
  split at h
  · cases h
  · rw [hvlan] at h
    dsimp only at h
    split at h
    · next range => simpa using range
    · cases h

theorem succeeds_of_vlanKeyFault {key : String} (h : vlanKeyFault key = none) :
    Succeeds (readNumeral key) := by
  rw [vlanKeyFault] at h
  split at h
  · cases h
  · split at h
    · cases h
    · next vlan hvlan => exact ⟨vlan, hvlan⟩

theorem vlanTable_eq_ok {v : Value} {t : List (String × String)} (h : vlanTable v = .ok t) :
    ∀ e ∈ t, vlanKeyFault e.1 = none := by
  obtain ⟨t', _, h⟩ := andThen_eq_ok.1 h
  split at h
  · cases h
  · next hnone =>
    cases h
    exact List.findSome?_eq_none_iff.1 hnone

/-! ## Devices -/

/-- The id and the tables of a device that was accepted are those that were read. -/
theorem deviceDoc_eq_ok {v : Value} {d : DeviceDoc} (h : deviceDoc v = .ok d) :
    ∃ fs, required "id" nonemptyText fs = .ok d.id ∧
      defaulted "vlanTable" [("1", firstVlanName)] vlanTable fs = .ok d.vlans ∧
      defaulted "interfaceTable" [] (tableOf interfaceDoc) fs = .ok d.interfaces := by
  obtain ⟨fs, -, h₀⟩ := model_eq_ok h
  obtain ⟨_, _, h₁, _, rfl⟩ := and_eq_ok.1 h₀
  obtain ⟨_, interfaces, h₂, hinterfaces, rfl⟩ := and_eq_ok.1 h₁
  obtain ⟨_, vlans, h₃, hvlans, rfl⟩ := and_eq_ok.1 h₂
  obtain ⟨_, _, h₄, _, rfl⟩ := and_eq_ok.1 h₃
  obtain ⟨_, _, h₅, _, rfl⟩ := and_eq_ok.1 h₄
  obtain ⟨_, _, h₆, _, rfl⟩ := and_eq_ok.1 h₅
  obtain ⟨_, _, h₇, _, rfl⟩ := and_eq_ok.1 h₆
  obtain ⟨_, _, h₈, _, rfl⟩ := and_eq_ok.1 h₇
  obtain ⟨_, _, h₉, _, rfl⟩ := and_eq_ok.1 h₈
  obtain ⟨_, _, h₁₀, _, rfl⟩ := and_eq_ok.1 h₉
  obtain ⟨_, _, h₁₁, _, rfl⟩ := and_eq_ok.1 h₁₀
  obtain ⟨_, id, h₁₂, hid, rfl⟩ := and_eq_ok.1 h₁₁
  cases h₁₂
  exact ⟨fs, hid, hvlans, hinterfaces⟩

/-- The keys of a VLAN table that was accepted are VLAN ids. -/
theorem vlanKeys_of_deviceDoc {v : Value} {d : DeviceDoc} (h : deviceDoc v = .ok d) :
    ∀ e ∈ d.vlans, vlanKeyFault e.1 = none := by
  obtain ⟨fs, -, hvlans, -⟩ := deviceDoc_eq_ok h
  intro e he
  obtain first | ⟨v, hv⟩ := defaulted_eq_ok hvlans
  · rw [first] at he
    obtain rfl := List.mem_singleton.1 he
    decide
  · exact vlanTable_eq_ok hv e he

theorem valid_deviceDoc {v : Value} {d : DeviceDoc} (h : deviceDoc v = .ok d) : d.Valid := by
  obtain ⟨fs, -, -, hinterfaces⟩ := deviceDoc_eq_ok h
  constructor
  · intro e he vlan hvlan
    exact vlanKeyFault_eq_none (vlanKeys_of_deviceDoc h e he) hvlan
  · intro e he
    obtain none | ⟨v, hv⟩ := defaulted_eq_ok hinterfaces
    · rw [none] at he
      cases he
    · cases v with
      | object fs =>
        obtain ⟨f, _, hf⟩ := exists_of_forall₂ (tableOf_eq_ok.1 hv) he
        exact valid_interfaceDoc hf.2
      | _ => cases hv

/-- The id and the VLAN ids of a device can be read back. -/
structure DeviceDoc.Readable (d : DeviceDoc) : Prop where
  named : d.id ≠ ""
  vlans : ∀ e ∈ d.vlans, Succeeds (readNumeral e.1)

theorem readable_deviceDoc {v : Value} {d : DeviceDoc} (h : deviceDoc v = .ok d) :
    d.Readable := by
  obtain ⟨fs, hid, -, -⟩ := deviceDoc_eq_ok h
  obtain ⟨w, -, hw⟩ := required_eq_ok.1 hid
  refine ⟨(nonemptyText_eq_ok.1 hw).2, fun e he => ?_⟩
  exact succeeds_of_vlanKeyFault (vlanKeys_of_deviceDoc h e he)

/-! ## Topologies -/

/-- Every device of a topology that was accepted was. -/
theorem exists_deviceDoc {v : Value} {t : TopologyDoc} (h : topologyDoc v = .ok t) :
    ∀ d ∈ t.devices, ∃ w, deviceDoc w = .ok d := by
  obtain ⟨fs, -, h₀⟩ := model_eq_ok h
  obtain ⟨_, links, h₁, _, rfl⟩ := and_eq_ok.1 h₀
  obtain ⟨_, devices, h₂, hdevices, rfl⟩ := and_eq_ok.1 h₁
  cases h₂
  change ∀ d ∈ devices, _
  intro d hd
  obtain rfl | ⟨v, hv⟩ := defaulted_eq_ok hdevices
  · cases hd
  · cases v with
    | list vs =>
      obtain ⟨w, _, hw⟩ := exists_of_forall₂ (listOf_eq_ok.1 hv) hd
      exact ⟨w, hw⟩
    | _ => cases hv

theorem valid_topologyDoc {v : Value} {t : TopologyDoc} (h : topologyDoc v = .ok t) :
    ∀ d ∈ t.devices, d.Valid := by
  intro d hd
  obtain ⟨w, hw⟩ := exists_deviceDoc h d hd
  exact valid_deviceDoc hw

theorem readable_topologyDoc {v : Value} {t : TopologyDoc} (h : topologyDoc v = .ok t) :
    ∀ d ∈ t.devices, d.Readable := by
  intro d hd
  obtain ⟨w, hw⟩ := exists_deviceDoc h d hd
  exact readable_deviceDoc hw

end NetLab.Schema
