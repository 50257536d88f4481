import NetLab.Proofs.Route.Fate

set_option autoImplicit false

/-!
# Networks that differ in the order of interfaces

A document lists the interfaces of a device by name, and does not say from which number on links are
named.  So a network that is written down and read back differs from what it was in the order of
interfaces and in that number.  Networks that differ in nothing else are twins: every operation that
commands come down to ends alike on twins and leaves twins, and packets fare alike in them.
-/

namespace NetLab

/-! ## Devices -/

/-- The device with another interface table. -/
def Device.withInterfaces (d : Device) (r : Roster Value Interface) : Device :=
  { d with interfaces := r }

/-- The device is the same but for the order of its interfaces. -/
inductive Device.Twin (d : Device) : Device → Prop where
  | reordered {r : Roster Value Interface} (same : ∀ k, r.get? k = d.interfaces.get? k) :
      Twin d (d.withInterfaces r)

namespace Device.Twin

variable {d d' : Device}

theorem refl (d : Device) : d.Twin d := .reordered fun _ => rfl

theorem trans {d'' : Device} (h : d.Twin d') (h' : d'.Twin d'') : d.Twin d'' := by
  cases h with
  | reordered same =>
    cases h' with
    | reordered same' => exact .reordered fun k => (same' k).trans (same k)

theorem uid (h : d.Twin d') : d'.uid = d.uid := by
  cases h
  rfl

theorem kind (h : d.Twin d') : d'.kind = d.kind := by
  cases h
  rfl

theorem lines (h : d.Twin d') : d'.lines = d.lines := by
  cases h
  rfl

theorem interface? (h : d.Twin d') (name : Value) : d'.interface? name = d.interface? name := by
  cases h with
  | reordered same => exact congrArg name.key.map (funext same)

theorem supportsVlans (h : d.Twin d') : d'.supportsVlans = d.supportsVlans :=
  congrArg Kind.supportsVlans h.kind

/-- Packets meet the same in twins. -/
theorem host (h : d.Twin d') : Route.Host.ofDevice d' = Route.Host.ofDevice d := by
  cases h
  rfl

theorem perm_values (h : d.Twin d') : d.interfaces.values.Perm d'.interfaces.values := by
  cases h with
  | reordered same => exact (Roster.perm_entries same).symm.map Prod.snd

theorem putInterface (h : d.Twin d') (i : Interface) :
    (d.putInterface i).Twin (d'.putInterface i) := by
  cases h with
  | @reordered r same =>
    refine .reordered fun k => ?_
    change (r.put i.key.plain i).get? k = (d.interfaces.put i.key.plain i).get? k
    rw [Roster.get?_put, Roster.get?_put, same]

end Device.Twin

namespace Network

/-! ## Networks -/

/-- The networks have the same links, and the same devices in the same order, but for the order of
interfaces. -/
structure Twin (n n' : Network) : Prop where
  links : n'.links = n.links
  keys : n'.devices.keys = n.devices.keys
  devices : ∀ uid, Option.Rel Device.Twin (n.devices.get? uid) (n'.devices.get? uid)

namespace Twin

variable {n n' : Network} {uid : String}

theorem refl (n : Network) : n.Twin n :=
  ⟨rfl, rfl, fun uid => rel_refl Device.Twin.refl (n.devices.get? uid)⟩

theorem trans {n'' : Network} (h : n.Twin n') (h' : n'.Twin n'') : n.Twin n'' where
  links := h'.links.trans h.links
  keys := h'.keys.trans h.keys
  devices := fun uid => rel_trans (fun twin => twin.trans) (h.devices uid) (h'.devices uid)

theorem device (h : n.Twin n') (uid : String) :
    Matching Device.Twin (n.device uid) (n'.device uid) := by
  have found := h.devices (Text.trim uid)
  rw [Network.device, Network.device, device?, device?]
  generalize n.devices.get? (Text.trim uid) = x at found
  generalize n'.devices.get? (Text.trim uid) = y at found
  cases found with
  | none => exact .error _
  | some twin => exact .ok twin

/-- Twins look the same wherever the order of interfaces is not looked at. -/
theorem alike {β : Type} {look : Device → β} (h : n.Twin n')
    (hlook : ∀ {uid : String} {d d' : Device}, n.devices.get? uid = some d → d.Twin d' →
      look d' = look d) : n.Alike look n' where
  links := h.links
  devices := by
    rw [Roster.map_values, Roster.map_values, h.keys]
    refine List.filterMap_congr fun uid _ => ?_
    have found := h.devices uid
    generalize hx : n.devices.get? uid = x at found
    generalize n'.devices.get? uid = y at found
    cases found with
    | none => rfl
    | some twin => exact congrArg some (hlook hx twin)

theorem trace (h : n.Twin n') (source target : String) :
    n'.trace source target = n.trace source target :=
  (h.alike fun _ twin => twin.host).trace source target

/-- An address is that of devices of one id. -/
theorem deviceByAddress (h : n.Twin n') (ip : Value) :
    (n'.deviceByAddress ip).map (·.uid) = (n.deviceByAddress ip).map (·.uid) := by
  have seen : ∀ m : Network, (m.deviceByAddress ip).map (·.uid) =
      ((m.devices.values.map Route.Host.ofDevice).find? fun x =>
        x.address.given && x.address.equals ip).map (·.uid) := by
    intro m
    rw [List.find?_map, Option.map_map]
    rfl
  rw [seen, seen, (h.alike fun _ twin => twin.host).devices]

/-! ## Changing one device -/

variable {f : Device → Device}

theorem alter (h : n.Twin n') (hf : ∀ {d d' : Device}, d.Twin d' → (f d).Twin (f d')) :
    (n.alter uid f).Twin (n'.alter uid f) where
  links := h.links
  keys := by rw [keys_alter, keys_alter, h.keys]
  devices := by
    intro k
    have found := h.devices k
    rw [get?_alter, get?_alter]
    generalize n.devices.get? k = x at found
    generalize n'.devices.get? k = y at found
    cases found with
    | none => exact .none
    | some twin =>
      refine .some ?_
      split
      · exact hf twin
      · exact twin

theorem update (h : n.Twin n') (hf : ∀ {d d' : Device}, d.Twin d' → (f d).Twin (f d')) :
    Matching Twin (n.update uid f) (n'.update uid f) := by
  have found := h.devices (Text.trim uid)
  have changed : (n.alter uid f).Twin (n'.alter uid f) := h.alter hf
  rw [Network.update, Network.update, device?, device?]
  generalize n.devices.get? (Text.trim uid) = x at found
  generalize n'.devices.get? (Text.trim uid) = y at found
  cases found with
  | none => exact .error _
  | some _ => exact .ok changed

/-- What a change makes of a device does not depend on its interfaces, which it leaves. -/
theorem update_settings (h : n.Twin n')
    (hf : ∀ (d : Device) (r : Roster Value Interface),
      f (d.withInterfaces r) = (f d).withInterfaces r) :
    Matching Twin (n.update uid f) (n'.update uid f) := by
  refine h.update fun {d d'} twin => ?_
  have left : (f d).interfaces = d.interfaces := by
    have own : f d = (f d).withInterfaces d.interfaces := hf d d.interfaces
    rw [own]
    rfl
  cases twin with
  | reordered same =>
    rw [hf]
    exact .reordered fun k => by rw [left, same]

theorem ensureInterface (h : n.Twin n') (uid : String) (name : Value) :
    Matching (fun p p' => p'.1 = p.1 ∧ p.2.Twin p'.2) (n.ensureInterface uid name)
      (n'.ensureInterface uid name) := by
  refine (h.device uid).bind fun d d' hd => ?_
  refine (Matching.of_eq (hd.interface? name).symm).bind fun found _ hfound => ?_
  subst hfound
  cases found with
  | some i => exact .ok ⟨rfl, h⟩
  | none => exact (h.update fun twin => twin.putInterface _).bind fun m m' hm => .ok ⟨rfl, hm⟩

theorem editInterface (h : n.Twin n') (uid : String) (name : Value) (f : Interface → Interface) :
    Matching (fun p p' => p'.1 = p.1 ∧ p.2.Twin p'.2) (n.editInterface uid name f)
      (n'.editInterface uid name f) := by
  refine (h.device uid).bind fun d d' hd => ?_
  refine (Matching.of_eq (hd.interface? name).symm).bind fun found _ hfound => ?_
  subst hfound
  cases found with
  | none =>
    dsimp only
    rw [hd.uid]
    exact .error _
  | some i => exact (h.update fun twin => twin.putInterface _).bind fun m m' hm => .ok ⟨rfl, hm⟩

theorem editLine (h : n.Twin n') (uid : String) (line : Value) (f : Line → Line) :
    Matching (fun p p' => p'.1 = p.1 ∧ p.2.Twin p'.2) (n.editLine uid line f)
      (n'.editLine uid line f) := by
  refine (h.device uid).bind fun d d' hd => ?_
  cases LineName.ofValue? line with
  | none => exact .error _
  | some name =>
    dsimp only
    rw [hd.lines]
    exact Matching.bind (h.update_settings fun _ _ => rfl) fun m m' hm => .ok ⟨rfl, hm⟩

/-! ## VLANs -/

theorem setVlan (h : n.Twin n') (uid : String) (vlan : Int) (name : Value) :
    Matching (Matching Twin) (n.setVlan uid vlan name) (n'.setVlan uid vlan name) := by
  refine (h.device uid).bind fun d d' hd => ?_
  rw [hd.supportsVlans]
  split
  · exact .ok (.error _)
  · split
    · exact .ok (.error _)
    · exact Matching.bind (h.update_settings fun _ _ => rfl) fun m m' hm => .ok (.ok hm)

theorem removeVlan (h : n.Twin n') (uid : String) (vlan : Int) :
    Matching (Matching Twin) (n.removeVlan uid vlan) (n'.removeVlan uid vlan) := by
  refine (h.device uid).bind fun d d' hd => ?_
  rw [hd.supportsVlans]
  split
  · exact .ok (.error _)
  · split
    · exact .ok (.error _)
    · exact Matching.bind (h.update_settings fun _ _ => rfl) fun m m' hm => .ok (.ok hm)

end Twin

end Network

end NetLab
