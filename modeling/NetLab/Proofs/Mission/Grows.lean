import NetLab.Proofs.Mission.Check
import NetLab.Proofs.Network.Operation

set_option autoImplicit false

/-!
# Networks that grow

A network grows where devices, links and VLANs come in, and nothing that missions look for goes away
(`Network.Grows`).  A test that passes keeps passing as the network grows (`Check.Listed.grows`).
Networks that hold the same in different orders grow into each other, so no test tells them apart
(`Check.Listed.congr`).
-/

namespace NetLab

/-! ## Growing -/

/-- What missions look for at a device is there still. -/
structure Device.Grows (d d' : Device) : Prop where
  kind : d'.kind = d.kind
  address : d'.address = d.address
  tag : d'.displayVlan = d.displayVlan
  vlans : ∀ v, d.vlans.contains v = true → d'.vlans.contains v = true

namespace Device.Grows

variable {d d' d'' : Device}

theorem refl (d : Device) : d.Grows d := ⟨rfl, rfl, rfl, fun _ h => h⟩

theorem trans (h : d.Grows d') (h' : d'.Grows d'') : d.Grows d'' :=
  ⟨h'.kind.trans h.kind, h'.address.trans h.address, h'.tag.trans h.tag,
    fun v hv => h'.vlans v (h.vlans v hv)⟩

end Device.Grows

namespace Network

/-- Whatever missions look for in a network is there still, and no PC came in whose address cannot
be looked at. -/
structure Grows (n m : Network) : Prop where
  devices : ∀ uid d, n.devices.get? uid = some d →
    ∃ d', m.devices.get? uid = some d' ∧ d.Grows d'
  links : ∀ k l, n.links.get? k = some l → m.links.get? k = some l
  addressable : n.Addressable → m.Addressable

/-- The networks hold the same devices and the same links, in whatever orders. -/
structure Reorders (n m : Network) : Prop where
  devices : n.devices.entries.Perm m.devices.entries
  links : n.links.entries.Perm m.links.entries

variable {n m : Network} {uid : String}

theorem addressable_iff : n.Addressable ↔ ∀ uid d, n.devices.get? uid = some d →
    d.kind = .pc → d.address.given = true → ∃ s, d.address = .text s := by
  constructor
  · intro h uid d hd
    exact h d (Roster.mem_values_iff.2 ⟨uid, hd⟩)
  · intro h d hd
    obtain ⟨uid, hd⟩ := Roster.mem_values_iff.1 hd
    exact h uid d hd

namespace Grows

theorem refl (n : Network) : n.Grows n := ⟨fun _ d hd => ⟨d, hd, .refl d⟩, fun _ _ h => h, id⟩

theorem trans {l : Network} (h : n.Grows m) (h' : m.Grows l) : n.Grows l := by
  refine ⟨fun uid d hd => ?_, fun k x hx => h'.links k x (h.links k x hx),
    fun hn => h'.addressable (h.addressable hn)⟩
  obtain ⟨d', hd', grows⟩ := h.devices uid d hd
  obtain ⟨d'', hd'', grows'⟩ := h'.devices uid d' hd'
  exact ⟨d'', hd'', grows.trans grows'⟩

/-- A network grows with the one device that is changed. -/
theorem alter {f : Device → Device} (hf : ∀ d, n.device? uid = some d → d.Grows (f d)) :
    n.Grows (n.alter uid f) := by
  have each : ∀ k d, n.devices.get? k = some d →
      ∃ d', (n.alter uid f).devices.get? k = some d' ∧ d.Grows d' := by
    intro k d hd
    rw [get?_alter, hd, Option.map_some]
    refine ⟨_, rfl, ?_⟩
    split
    · next same =>
      rw [same] at hd
      exact hf d hd
    · exact .refl d
  refine ⟨each, fun _ _ h => h, fun hn => addressable_iff.2 fun k d' hd' kind given => ?_⟩
  obtain ⟨d, hd⟩ : ∃ d, n.devices.get? k = some d := by
    rw [get?_alter, Option.map_eq_some_iff] at hd'
    obtain ⟨d, hd, -⟩ := hd'
    exact ⟨d, hd⟩
  obtain ⟨x, hx, grows⟩ := each k d hd
  obtain rfl : x = d' := Option.some.inj (hx.symm.trans hd')
  rw [grows.kind] at kind
  rw [grows.address] at given ⊢
  exact addressable_iff.1 hn k d hd kind given

/-- A network grows by a new device whose address can be looked at. -/
theorem putDevice {d : Device} (new : n.devices.get? uid = none)
    (address : d.address.given = true → ∃ s, d.address = .text s) :
    n.Grows { n with devices := n.devices.put uid d } := by
  have apart : ∀ {k x}, n.devices.get? k = some x → ¬ k = uid := by
    rintro k x hx rfl
    rw [new] at hx
    cases hx
  refine ⟨fun k x hx => ⟨x, ?_, .refl x⟩, fun _ _ h => h,
    fun hn => addressable_iff.2 fun k x hx kind => ?_⟩
  · rw [Roster.get?_put, if_neg (apart hx), hx]
  · rw [Roster.get?_put] at hx
    split at hx
    · obtain rfl := Option.some.inj hx
      exact address
    · exact addressable_iff.1 hn k x hx kind

/-- A network grows by a link whose id is free. -/
theorem putLink {l : Link String} (free : n.links.contains l.id.plain = false) :
    n.Grows (n.putLink l) := by
  refine ⟨fun _ d hd => ⟨d, hd, .refl d⟩, fun k x hx => ?_, id⟩
  have apart : ¬ k = l.id.plain := by
    rintro rfl
    rw [Roster.contains_iff.2 ⟨x, hx⟩] at free
    cases free
  rw [Network.putLink, Roster.get?_put, if_neg apart, hx]

end Grows

/-- Networks that hold the same grow into each other. -/
theorem Reorders.grows (h : n.Reorders m) : n.Grows m := by
  have devices : ∀ uid, m.devices.get? uid = n.devices.get? uid := Roster.get?_of_perm h.devices
  have links : ∀ k, m.links.get? k = n.links.get? k := Roster.get?_of_perm h.links
  refine ⟨fun uid d hd => ⟨d, (devices uid).trans hd, .refl d⟩,
    fun k l hl => (links k).trans hl, fun hn => addressable_iff.2 fun uid d hd => ?_⟩
  exact addressable_iff.1 hn uid d ((devices uid).symm.trans hd)

theorem Reorders.symm (h : n.Reorders m) : m.Reorders n := ⟨h.devices.symm, h.links.symm⟩

end Network

/-! ## Tests on a network that grows -/

namespace Mission

open Network (Grows)

variable {n m : Network}

namespace Check

/-- There are no fewer devices of which something holds that a device keeps as it grows. -/
theorem countP_devices_le (h : n.Grows m) {p : Device → Bool}
    (keeps : ∀ d d', d.Grows d' → p d = true → p d' = true) :
    n.devices.values.countP p ≤ m.devices.values.countP p := by
  refine Roster.countP_values_le fun uid d hd hp => ?_
  obtain ⟨d', hd', grows⟩ := h.devices uid d hd
  exact ⟨d', hd', keeps d d' grows hp⟩

theorem any_devices (h : n.Grows m) {p : Device → Bool}
    (keeps : ∀ d d', d.Grows d' → p d = true → p d' = true)
    (some : n.devices.values.any p = true) : m.devices.values.any p = true := by
  obtain ⟨d, hd, hp⟩ := List.any_eq_true.1 some
  obtain ⟨uid, hd⟩ := Roster.mem_values_iff.1 hd
  obtain ⟨d', hd', grows⟩ := h.devices uid d hd
  exact List.any_eq_true.2 ⟨d', Roster.mem_values_iff.2 ⟨uid, hd'⟩, keeps d d' grows hp⟩

theorem hasAtLeast_grows (h : n.Grows m) {count : Nat} {k : Kind}
    (enough : hasAtLeast n count k = true) : hasAtLeast m count k = true := by
  have more := countP_devices_le h (p := fun d => decide (d.kind = k)) fun d d' grows hd => by
    rwa [grows.kind]
  rw [List.countP_eq_length_filter, List.countP_eq_length_filter] at more
  rw [hasAtLeast, decide_eq_true_eq] at enough ⊢
  exact Nat.le_trans enough more

theorem inOffice_le (h : n.Grows m) : inOffice n ≤ inOffice m := by
  refine countP_devices_le h fun d d' grows hd => ?_
  rwa [startsWith, grows.kind, grows.address]

theorem size_links_le (h : n.Grows m) : n.links.size ≤ m.links.size := by
  have more := Roster.countP_values_le (r := n.links) (s := m.links) (p := fun _ => true)
    (q := fun _ => true) fun k l hl _ => ⟨l, h.links k l hl, rfl⟩
  simpa [Roster.values, Roster.size] using more

theorem crossLinks_le (h : n.Grows m) (x y : Kind) : crossLinks n x y ≤ crossLinks m x y := by
  rw [crossLinks, crossLinks, ← List.countP_eq_length_filter, ← List.countP_eq_length_filter]
  refine Roster.countP_values_le fun k l hl joins => ⟨l, h.links k l hl, ?_⟩
  split at joins
  · next a b ha hb =>
    obtain ⟨a', ha', growsA⟩ := h.devices _ a ha
    obtain ⟨b', hb', growsB⟩ := h.devices _ b hb
    rw [ha', hb']
    dsimp only
    rwa [growsA.kind, growsB.kind]
  · cases joins

/-- A test that passes keeps passing as the network grows. -/
theorem Listed.grows {c : Check} (hc : c.Listed) (h : n.Grows m) (passes : c n = .ok true) :
    c m = .ok true := by
  cases hc with
  | startupCabled =>
    simp only [Check.startupCabled, Except.ok.injEq, Bool.and_eq_true,
      decide_eq_true_eq] at passes ⊢
    obtain ⟨⟨⟨router, switch⟩, pcs⟩, links⟩ := passes
    exact ⟨⟨⟨hasAtLeast_grows h router, hasAtLeast_grows h switch⟩, hasAtLeast_grows h pcs⟩,
      Nat.le_trans links (size_links_le h)⟩
  | startupAddressed =>
    have addressable : n.Addressable := by
      by_contra none
      rw [startupAddressed_eq_error none] at passes
      cases passes
    rw [startupAddressed_of_addressable addressable, Except.ok.injEq, decide_eq_true_eq] at passes
    rw [startupAddressed_of_addressable (h.addressable addressable), Except.ok.injEq,
      decide_eq_true_eq]
    exact Nat.le_trans passes (inOffice_le h)
  | startupGateway =>
    have router := Except.ok.inj passes
    rw [ofKind, List.any_filter] at router
    rw [Check.startupGateway, ofKind, List.any_filter]
    refine congrArg Except.ok (any_devices h (fun d d' grows hd => ?_) router)
    rwa [grows.kind, grows.address]
  | vlans vs =>
    refine congrArg Except.ok (any_devices h (fun d d' grows hd => ?_) (Except.ok.inj passes))
    rw [List.all_eq_true] at hd ⊢
    exact fun v hv => grows.vlans v (hd v hv)
  | separationDevices =>
    simp only [Check.separationDevices, Except.ok.injEq, Bool.and_eq_true] at passes ⊢
    exact ⟨hasAtLeast_grows h passes.1, hasAtLeast_grows h passes.2⟩
  | separationPorts =>
    have tagged : ∀ v, someTagged n v = true → someTagged m v = true := fun v hv =>
      any_devices h (fun d d' grows hd => by rwa [grows.tag]) hv
    simp only [Check.separationPorts, Except.ok.injEq, Bool.and_eq_true] at passes ⊢
    exact ⟨tagged 10 passes.1, tagged 20 passes.2⟩
  | spineLeafDevices =>
    simp only [Check.spineLeafDevices, Except.ok.injEq, Bool.and_eq_true] at passes ⊢
    exact ⟨hasAtLeast_grows h passes.1, hasAtLeast_grows h passes.2⟩
  | spineLeafMesh =>
    simp only [Check.spineLeafMesh, Except.ok.injEq, decide_eq_true_eq] at passes ⊢
    exact Nat.le_trans passes (crossLinks_le h _ _)

/-- Networks that grow into each other are alike to every test. -/
theorem Listed.congr {c : Check} (hc : c.Listed) (h : n.Grows m) (h' : m.Grows n) :
    c m = c n := by
  have agree : Succeeds (c n) → Succeeds (c m) → c m = c n := by
    rintro ⟨a, ha⟩ ⟨b, hb⟩
    have same : b = a := by
      rw [Bool.eq_iff_iff]
      constructor
      · rintro rfl
        exact Except.ok.inj (ha.symm.trans (hc.grows h' hb))
      · rintro rfl
        exact Except.ok.inj (hb.symm.trans (hc.grows h ha))
    rw [ha, hb, same]
  -- what both answer agrees either way; and addresses can be looked at in both or in neither
  by_cases addressable : n.Addressable
  · exact agree (hc.succeeds addressable) (hc.succeeds (h.addressable addressable))
  · rcases hc.answers with always | rfl
    · exact agree (always n) (always m)
    · rw [startupAddressed_eq_error addressable,
        startupAddressed_eq_error fun hm => addressable (h'.addressable hm)]

end Check

end Mission

end NetLab
