import NetLab.Proofs.Route.Fate

set_option autoImplicit false

/-!
# What operations on one device read and write

An operation on a device reads that device, except for the VLAN tag that is shown for it, and of the
others what they are (`Device.identity`), the keys and the links.  It changes that device without
reading the tag or changing what the device is (`Device.Configures`).  So on two networks that look
the same from the device (`Network.SameFrom`) it ends alike and makes the same change of both
(`Network.Edited`); and writes on two devices may be made in either order, unless both tag
(`Network.Write.on_comm`).
-/

namespace NetLab

/-! ## Devices -/

/-- What a device is to others: its id, kind, state and management address. -/
structure Device.Identity where
  uid : String
  kind : Kind
  status : Status
  address : Value

namespace Device

/-- What the device is to others. -/
def identity (d : Device) : Identity :=
  { uid := d.uid, kind := d.kind, status := d.status, address := d.address }

/-- The device with another VLAN tag. -/
def tagged (d : Device) (v : Value) : Device := { d with displayVlan := v }

/-- A change leaves what a device is, and neither reads nor writes its VLAN tag. -/
structure Configures (f : Device → Device) : Prop where
  identity : ∀ d, (f d).identity = d.identity
  tagged : ∀ d v, f (d.tagged v) = (f d).tagged v

theorem configures_id : Configures id := ⟨fun _ => rfl, fun _ _ => rfl⟩

theorem configures_putInterface (i : Interface) : Configures (·.putInterface i) :=
  ⟨fun _ => rfl, fun _ _ => rfl⟩

theorem configures_vlans (table : Index Int Value → Index Int Value) :
    Configures fun d => { d with vlans := table d.vlans } :=
  ⟨fun _ => rfl, fun _ _ => rfl⟩

theorem tagged_self (d : Device) : d.tagged d.displayVlan = d := rfl

end Device

namespace Network

variable {n m n' m' : Network} {uid uid' : String}

/-! ## Writes on two devices -/

theorem alter_id (n : Network) (uid : String) : n.alter uid id = n := by
  have same : n.devices.modify (Text.trim uid) id = n.devices := by
    refine Roster.ext_entries ((List.map_congr_left fun e _ => ?_).trans (List.map_id _))
    dsimp only [id]
    rw [ite_self]
  rw [alter, same]

/-- Changes of two devices, and changes of one that do not mind the order, may be made in either
order. -/
theorem alter_comm {f g : Device → Device}
    (h : Text.trim uid ≠ Text.trim uid' ∨ ∀ d, f (g d) = g (f d)) :
    (n.alter uid f).alter uid' g = (n.alter uid' g).alter uid f := by
  have same : (n.devices.modify (Text.trim uid) f).modify (Text.trim uid') g =
      (n.devices.modify (Text.trim uid') g).modify (Text.trim uid) f := by
    refine Roster.ext_entries ?_
    simp only [Roster.modify, Roster.mapValues, List.map_map]
    refine List.map_congr_left fun e _ => ?_
    simp only [Function.comp_apply]
    by_cases hu : e.1 = Text.trim uid
    · by_cases hu' : e.1 = Text.trim uid'
      · have comm := h.resolve_left fun apart => apart (hu.symm.trans hu')
        rw [if_pos hu, if_pos hu', if_pos hu', if_pos hu, comm]
      · rw [if_neg hu', if_neg hu']
    · rw [if_neg hu, if_neg hu]
  rw [alter, alter, alter, alter, same]

/-- What a line writes on a network: a change of the device of its session, and the VLAN tag of
another device at most. -/
structure Write where
  edit : Device → Device := id
  tag : Option (String × Value) := none

/-- The network with the write made from a device. -/
def Write.on (w : Write) (uid : String) (n : Network) : Network :=
  match w.tag with
  | none => n.alter uid w.edit
  | some (host, v) => (n.alter uid w.edit).alter host (·.tagged v)

/-- Writes that are made from two devices may be made in either order, unless both tag a device. -/
theorem Write.on_comm {v w : Write} (hv : Device.Configures v.edit) (hw : Device.Configures w.edit)
    (apart : Text.trim uid ≠ Text.trim uid') (once : v.tag = none ∨ w.tag = none) (n : Network) :
    w.on uid' (v.on uid n) = v.on uid (w.on uid' n) := by
  have edits : ∀ n : Network, (n.alter uid v.edit).alter uid' w.edit =
      (n.alter uid' w.edit).alter uid v.edit := fun n => alter_comm (Or.inl apart)
  have tagAfter : ∀ (n : Network) (u host : String) (x : Value) {f : Device → Device},
      Device.Configures f → (n.alter host (·.tagged x)).alter u f =
        (n.alter u f).alter host (·.tagged x) :=
    fun n u host x f hf => alter_comm (Or.inr fun d => (hf.tagged d x).symm)
  obtain ⟨f, tag⟩ := v
  obtain ⟨g, tag'⟩ := w
  rw [Write.on, Write.on, Write.on, Write.on]
  dsimp only at *
  cases tag with
  | none =>
    cases tag' with
    | none => exact edits n
    | some tag' => rw [edits, tagAfter _ _ _ _ hv]
  | some tag =>
    cases tag' with
    | none => rw [tagAfter _ _ _ _ hw, edits]
    | some tag' => simp at once

/-! ## Networks that look the same from a device -/

theorem Alike.symm {β : Type} {look : Device → β} (h : n.Alike look m) : m.Alike look n :=
  ⟨h.links.symm, h.devices.symm⟩

/-- The networks look the same from the device of an id: they have the same links and devices, these
are to others what they were, and the device itself is the same but for its VLAN tag. -/
structure SameFrom (uid : String) (n m : Network) : Prop where
  keys : m.devices.keys = n.devices.keys
  alike : n.Alike Device.identity m
  own : Option.Rel (fun d d' => ∃ v, d' = d.tagged v) (n.device? uid) (m.device? uid)

theorem sameFrom_refl (uid : String) (n : Network) : n.SameFrom uid n :=
  ⟨rfl, ⟨rfl, rfl⟩, rel_refl (fun d => ⟨d.displayVlan, d.tagged_self.symm⟩) _⟩

/-- Another device may be changed, and any device tagged. -/
theorem sameFrom_on {w : Write} (hw : Device.Configures w.edit)
    (apart : Text.trim uid ≠ Text.trim uid') (n : Network) : n.SameFrom uid (w.on uid' n) := by
  have edited : n.SameFrom uid (n.alter uid' w.edit) := by
    refine ⟨keys_alter _, alike_alter hw.identity, ?_⟩
    have same : (n.alter uid' w.edit).device? uid = n.device? uid := by
      rw [device?, get?_alter, device?]
      simp [apart]
    rw [same]
    exact rel_refl (fun d => ⟨d.displayVlan, d.tagged_self.symm⟩) _
  rw [Write.on]
  split
  · exact edited
  · next host v _ =>
    refine ⟨(keys_alter _).trans edited.keys, edited.alike.trans (alike_alter fun _ => rfl), ?_⟩
    have own := edited.own
    rw [device?, device?] at own ⊢
    rw [get?_alter]
    generalize n.devices.get? (Text.trim uid) = x at own
    generalize (n.alter uid' w.edit).devices.get? (Text.trim uid) = y at own
    cases own with
    | none => exact .none
    | some same =>
      refine .some ?_
      obtain ⟨x, rfl⟩ := same
      dsimp only
      split
      · exact ⟨v, rfl⟩
      · exact ⟨x, rfl⟩

namespace SameFrom

variable {d : Device} {f : Device → Device}

/-- One change of the device leaves networks that look the same from it. -/
theorem alter (h : n.SameFrom uid m) (hf : Device.Configures f) :
    (n.alter uid f).SameFrom uid (m.alter uid f) where
  keys := by rw [keys_alter, keys_alter, h.keys]
  alike := ((alike_alter hf.identity).symm.trans h.alike).trans (alike_alter hf.identity)
  own := by
    have own := h.own
    rw [device?, device?] at own ⊢
    rw [get?_alter, get?_alter]
    generalize n.devices.get? (Text.trim uid) = x at own
    generalize m.devices.get? (Text.trim uid) = y at own
    cases own with
    | none => exact .none
    | some same =>
      obtain ⟨v, rfl⟩ := same
      exact .some ⟨v, by simp [hf.tagged]⟩

/-- The device is found in both networks, or in none. -/
theorem device (h : n.SameFrom uid m) :
    Matching (fun d d' => ∃ v, d' = d.tagged v) (n.device uid) (m.device uid) := by
  have own := h.own
  rw [Network.device, Network.device]
  generalize n.device? uid = x at own
  generalize m.device? uid = y at own
  cases own with
  | none => exact .error _
  | some same => exact .ok same

/-- What is found under a key is the same to others. -/
theorem found (h : n.SameFrom uid m) (k : String) :
    Option.Rel (fun d d' => d'.identity = d.identity) (n.devices.get? k) (m.devices.get? k) :=
  rel_of_map_eq (Roster.map_get?_eq h.keys h.alike.devices k)

/-- Packets fare alike but for messages. -/
theorem trace (h : n.SameFrom uid m) (source target : String) :
    Matching (fun v v' => v'.wordless = v.wordless) (n.trace source target)
      (m.trace source target) := by
  let face (i : Device.Identity) : Route.Host String :=
    { uid := i.uid, label := .null, address := i.address, isDown := i.status = .down
      routes := .ok i.kind.routes }
  have faces : n.Alike faceOf m := h.alike.map face
  exact .of_map_eq (faces.trace_wordless source target)

/-- What is found at an address is the same to others. -/
theorem deviceByAddress (h : n.SameFrom uid m) (ip : Value) :
    Option.Rel (fun d d' => d'.identity = d.identity) (n.deviceByAddress ip)
      (m.deviceByAddress ip) := by
  have seen : ∀ k : Network, (k.deviceByAddress ip).map Device.identity =
      (k.devices.values.map Device.identity).find? fun x =>
        x.address.given && x.address.equals ip := by
    intro k
    rw [List.find?_map]
    rfl
  exact rel_of_map_eq (by rw [seen, seen, h.alike.devices])

end SameFrom

/-! ## Operations on the device -/

/-- One change of the device leads from each of two networks to the other two. -/
def Edited (uid : String) (n m n' m' : Network) : Prop :=
  ∃ f, Device.Configures f ∧ n' = n.alter uid f ∧ m' = m.alter uid f

theorem edited_refl (uid : String) (n m : Network) : Edited uid n m n m :=
  ⟨id, Device.configures_id, (alter_id n uid).symm, (alter_id m uid).symm⟩

/-- The device is changed in both networks, or found in none. -/
theorem SameFrom.update (h : n.SameFrom uid m) {f : Device → Device} (hf : Device.Configures f) :
    Matching (Edited uid n m) (n.update uid f) (m.update uid f) := by
  have own := h.own
  have changed : Edited uid n m (n.alter uid f) (m.alter uid f) := ⟨f, hf, rfl, rfl⟩
  rw [Network.update, Network.update]
  generalize n.device? uid = x at own
  generalize m.device? uid = y at own
  cases own with
  | none => exact .error _
  | some _ => exact .ok changed

/-- Any device can be tagged in both networks, or in none. -/
theorem SameFrom.setDisplayVlan (h : n.SameFrom uid m) (host : String) (v : Value) :
    Matching (fun n' m' => n' = n.alter host (·.tagged v) ∧ m' = m.alter host (·.tagged v))
      (n.setDisplayVlan host v) (m.setDisplayVlan host v) := by
  have there := h.found (Text.trim host)
  rw [Network.setDisplayVlan, Network.setDisplayVlan, Network.update, Network.update, device?,
    device?]
  generalize n.devices.get? (Text.trim host) = x at there
  generalize m.devices.get? (Text.trim host) = y at there
  cases there with
  | none => exact .error _
  | some _ => exact .ok ⟨rfl, rfl⟩

namespace SameFrom

theorem ensureInterface (h : n.SameFrom uid m) (name : Value) :
    Matching (fun p p' => p'.1 = p.1 ∧ Edited uid n m p.2 p'.2) (n.ensureInterface uid name)
      (m.ensureInterface uid name) := by
  refine h.device.bind fun d d' hd => ?_
  obtain ⟨v, rfl⟩ := hd
  have same : (d.tagged v).interface? name = d.interface? name := rfl
  refine (Matching.of_eq same.symm).bind fun found _ hfound => ?_
  subst hfound
  cases found with
  | some i => exact .ok ⟨rfl, edited_refl uid n m⟩
  | none =>
    exact (h.update (Device.configures_putInterface _)).bind
      fun n' m' changed => .ok ⟨rfl, changed⟩

theorem editInterface (h : n.SameFrom uid m) (name : Value) (f : Interface → Interface) :
    Matching (fun p p' => p'.1 = p.1 ∧ Edited uid n m p.2 p'.2) (n.editInterface uid name f)
      (m.editInterface uid name f) := by
  refine h.device.bind fun d d' hd => ?_
  obtain ⟨v, rfl⟩ := hd
  have same : (d.tagged v).interface? name = d.interface? name := rfl
  refine (Matching.of_eq same.symm).bind fun found _ hfound => ?_
  subst hfound
  cases found with
  | none => exact .error _
  | some i =>
    exact (h.update (Device.configures_putInterface _)).bind
      fun n' m' changed => .ok ⟨rfl, changed⟩

theorem editLine (h : n.SameFrom uid m) (line : Value) (f : Line → Line) :
    Matching (fun p p' => p'.1 = p.1 ∧ Edited uid n m p.2 p'.2) (n.editLine uid line f)
      (m.editLine uid line f) := by
  refine h.device.bind fun d d' hd => ?_
  obtain ⟨v, rfl⟩ := hd
  cases LineName.ofValue? line with
  | none => exact .error _
  | some name =>
    exact Matching.bind (h.update ⟨fun _ => rfl, fun _ _ => rfl⟩)
      fun n' m' changed => .ok ⟨rfl, changed⟩

theorem setVlan (h : n.SameFrom uid m) (vlan : Int) (name : Value) :
    Matching (Matching (Edited uid n m)) (n.setVlan uid vlan name) (m.setVlan uid vlan name) := by
  refine h.device.bind fun d d' hd => ?_
  obtain ⟨v, rfl⟩ := hd
  have same : (d.tagged v).supportsVlans = d.supportsVlans := rfl
  rw [same]
  split
  · exact .ok (.error _)
  · split
    · exact .ok (.error _)
    · exact Matching.bind (h.update (Device.configures_vlans _))
        fun n' m' changed => .ok (.ok changed)

theorem removeVlan (h : n.SameFrom uid m) (vlan : Int) :
    Matching (Matching (Edited uid n m)) (n.removeVlan uid vlan) (m.removeVlan uid vlan) := by
  refine h.device.bind fun d d' hd => ?_
  obtain ⟨v, rfl⟩ := hd
  have same : (d.tagged v).supportsVlans = d.supportsVlans := rfl
  rw [same]
  split
  · exact .ok (.error _)
  · split
    · exact .ok (.error _)
    · exact Matching.bind (h.update (Device.configures_vlans _))
        fun n' m' changed => .ok (.ok changed)

/-- The operations end alike, and change the device in the same way. -/
def EndsAlike (uid : String) (n m : Network)
    (x y : Except Fault (Option Rejection) × Network) : Prop :=
  y.1 = x.1 ∧ Edited uid n m x.2 y.2

theorem endsAlike_of_stay (r : Except Fault (Option Rejection)) :
    EndsAlike uid n m (r, n) (r, m) := ⟨rfl, edited_refl uid n m⟩

theorem setVlanAt (h : n.SameFrom uid m) (number : Double) (name : Value) :
    EndsAlike uid n m (n.setVlanAt uid number name) (m.setVlanAt uid number name) := by
  have found := h.device
  rw [Network.setVlanAt, Network.setVlanAt]
  generalize n.device uid = x at found
  generalize m.device uid = y at found
  cases found with
  | error f => exact endsAlike_of_stay _
  | @ok d d' related =>
    obtain ⟨v, rfl⟩ := related
    have supports : (d.tagged v).supportsVlans = d.supportsVlans := rfl
    have vlans : (d.tagged v).fullVlans = d.fullVlans := rfl
    dsimp only
    rw [supports, vlans]
    split
    · exact endsAlike_of_stay _
    · split
      · exact endsAlike_of_stay _
      · split
        · exact ⟨rfl, _, Device.configures_vlans _, rfl, rfl⟩
        · exact ⟨rfl, _, Device.configures_vlans (·.putNew 1 (.text firstVlanName)), rfl, rfl⟩

/-- A VLAN that a value asks for, also one that is not a whole number. -/
theorem setVlanOf (h : n.SameFrom uid m) (vlan name : Value) :
    EndsAlike uid n m (n.setVlanOf uid vlan name) (m.setVlanOf uid vlan name) := by
  have whole : ∀ v : Int,
      EndsAlike uid n m (n.setVlanOf uid (.int v) name) (m.setVlanOf uid (.int v) name) := by
    intro v
    have set := h.setVlan v name
    rw [setVlanOf_int, setVlanOf_int]
    generalize n.setVlan uid v name = x at set
    generalize m.setVlan uid v name = y at set
    cases set with
    | error f => exact endsAlike_of_stay _
    | ok related =>
      cases related with
      | error r => exact endsAlike_of_stay _
      | ok changed => exact ⟨rfl, changed⟩
  have found := h.device
  cases vlan with
  | int v => exact whole v
  | bool b => exact whole (if b then 1 else 0)
  | float d => exact h.setVlanAt d name
  | _ =>
    unfold Network.setVlanOf
    dsimp only
    generalize n.device uid = x at found
    generalize m.device uid = y at found
    cases found with
    | error f => exact endsAlike_of_stay _
    | ok related =>
      obtain ⟨v, rfl⟩ := related
      exact endsAlike_of_stay _

end SameFrom

end Network

end NetLab
