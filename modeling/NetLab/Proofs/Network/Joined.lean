import NetLab.Proofs.Network.Intact

set_option autoImplicit false

/-!
# Links join devices

In every network that operations made, whatever operations they were, a link ends at devices of the
network (`Network.joined_build`).  Only a removal takes a device away, and it takes the links that
end at it as well.
-/

namespace NetLab.Network

variable {n m : Network} {uid : String}

/-- Every link ends at devices of the network. -/
def Joined (n : Network) : Prop := ∀ k l, n.links.get? k = some l →
  n.devices.contains l.source = true ∧ n.devices.contains l.target = true

theorem Intact.joined (h : n.Intact) : n.Joined := fun k l hl => (h.links k l hl).2

/-- The device at the other end of a link is there. -/
theorem Joined.other (h : n.Joined) {l : Link String} (hl : l ∈ n.links.values) :
    ∃ d, n.devices.get? (l.other uid) = some d := by
  obtain ⟨k, hk⟩ := Roster.mem_values_iff.1 hl
  obtain ⟨source, target⟩ := h k l hk
  rw [Link.other]
  split
  · exact Roster.contains_iff.1 target
  · exact Roster.contains_iff.1 source

/-- A device at which a link ends is there. -/
theorem Joined.touched (h : n.Joined) {l : Link String} (hl : l ∈ n.links.values)
    (touches : l.touches uid = true) : ∃ d, n.devices.get? uid = some d := by
  obtain ⟨k, hk⟩ := Roster.mem_values_iff.1 hl
  obtain ⟨source, target⟩ := h k l hk
  rw [Link.touches, Bool.or_eq_true, beq_iff_eq, beq_iff_eq] at touches
  rcases touches with rfl | rfl
  · exact Roster.contains_iff.1 source
  · exact Roster.contains_iff.1 target

namespace Joined

/-- What takes no device away and leaves the links keeps them joined. -/
theorem of_devices (h : n.Joined) (links : m.links = n.links)
    (there : ∀ uid, n.devices.contains uid = true → m.devices.contains uid = true) : m.Joined := by
  intro k l hl
  rw [links] at hl
  obtain ⟨source, target⟩ := h k l hl
  exact ⟨there _ source, there _ target⟩

theorem alter (h : n.Joined) (f : Device → Device) : (n.alter uid f).Joined :=
  h.of_devices rfl fun k hk => by rwa [Roster.contains_congr (keys_alter f)]

theorem putLink {l : Link String} (h : n.Joined) (source : n.devices.contains l.source = true)
    (target : n.devices.contains l.target = true) : (n.putLink l).Joined :=
  Roster.forall_put h ⟨source, target⟩

theorem addLink {a b : String} {id given : Value} (h : n.Joined)
    (hm : n.addLink a b given = .ok (id, m)) : m.Joined := by
  obtain ⟨source, target, ⟨-, rfl⟩ | ⟨-, k, -, -, rfl⟩⟩ := addLink_eq_ok hm
  · exact putLink (n := (n.takeLinkId []).2) h source target
  · exact h.putLink source target

theorem removeLink {id : Value} (h : n.Joined) (hm : n.removeLink id = .ok m) : m.Joined := by
  intro k l hl
  rw [devices_removeLink hm]
  exact h k l (get?_links_removeLink hm hl)

theorem removeDevice (h : n.Joined) (uid : String) : (n.removeDevice uid).Joined := by
  intro k l hl
  obtain ⟨source, target⟩ := h k l (get?_links_removeDevice hl)
  exact ⟨contains_removeDevice hl l.touches_source source,
    contains_removeDevice hl l.touches_target target⟩

theorem addDevice {e : Entry} {d : Device} (h : n.Joined) (proper : n.Proper)
    (hm : n.addDevice e = .ok (d, m)) : m.Joined := by
  obtain ⟨rfl, -⟩ | ⟨-, rfl, -⟩ := addDevice_eq_ok proper hm
  · exact h
  · exact h.of_devices rfl fun _ => Roster.contains_put

theorem readDevice (fs : Fields) (h : n.Joined) (proper : n.Proper) :
    ((readDevice fs).run n).2.Joined := by
  obtain same | ⟨entry, d, m, -, added, read⟩ := readDevice_cases fs n
  · rwa [same]
  · rw [read]
    exact (h.addDevice proper added).of_devices rfl fun _ => Roster.contains_put

/-- Every operation keeps links joined. -/
theorem apply (h : n.Joined) (proper : n.Proper) (op : Operation) : (n.apply op).Joined := by
  cases configures : op.configures with
  | true =>
    obtain same | ⟨uid, f, altered⟩ := n.altered_of_configures configures
    · rwa [same]
    · rw [altered]
      exact h.alter f
  | false =>
    cases op with
    | reset => exact intact_empty.joined
    | addDevice e => exact after_map_induction h fun d m hm => h.addDevice proper hm
    | removeDevice uid => exact h.removeDevice uid
    | addLink a b id => exact after_map_induction h fun _ m hm => h.addLink hm
    | removeLink id => exact after_induction h fun m hm => h.removeLink hm
    | importDevice doc =>
      cases doc with
      | object fs => exact h.readDevice fs proper
      | _ => exact h
    | importDocument doc => exact (intact_importDocument n doc).joined
    | _ => cases configures

end Joined

/-- Whatever operations make has its links between its devices. -/
theorem joined_build (ops : List Operation) : (build ops).Joined := by
  have both : (build ops).Proper ∧ (build ops).Joined :=
    build_induction (P := fun n => n.Proper ∧ n.Joined) ⟨proper_empty, intact_empty.joined⟩
      fun _ h op _ => ⟨h.1.apply op, h.2.apply h.1 op⟩
  exact both.2

end NetLab.Network
