import NetLab.Network.Configure
import NetLab.Proofs.Collection.Roster
import NetLab.Proofs.Fault

set_option autoImplicit false

/-!
# What operations on a network do

Every operation on one device that succeeds comes down to a change of that device
(`Network.alter`), and this module says for each operation which change that is and what the device
was like.  Callers use these statements and never open the operations.
-/

namespace NetLab

/-! ## Keys -/

@[simp] theorem Value.key_text (s : String) : (Value.text s).key = .ok (.text s) := by
  simp [Value.key, Value.plain]

theorem Value.tame_key (v : Value) : Tame v.key := by
  rw [Value.key]
  split
  · exact tame_error rfl
  · exact tame_error rfl
  · exact tame_ok _

namespace Network

variable {n m : Network} {uid : String}

/-! ## Changing one device -/

/-- The network with the device of an id changed. -/
def alter (n : Network) (uid : String) (f : Device → Device) : Network :=
  { n with devices := n.devices.modify (Text.trim uid) f }

@[simp] theorem keys_alter (f : Device → Device) : (n.alter uid f).devices.keys = n.devices.keys :=
  Roster.keys_modify

theorem get?_alter (f : Device → Device) (k : String) :
    (n.alter uid f).devices.get? k =
      (n.devices.get? k).map fun d => if k = Text.trim uid then f d else d :=
  Roster.get?_modify

/-- A change that leaves the device as it is leaves the network. -/
theorem alter_of_eq {d : Device} {f : Device → Device} (h : n.device? uid = some d)
    (hf : f d = d) : n.alter uid f = n := by
  rw [alter, Roster.modify_of_eq h hf]

/-- Only what a change makes of the device that is there shows. -/
theorem alter_congr {d : Device} {f g : Device → Device} (h : n.device? uid = some d)
    (hfg : f d = g d) : n.alter uid f = n.alter uid g := by
  rw [alter, alter, Roster.modify_congr h hfg]

theorem alter_alter (n : Network) (uid : String) (f g : Device → Device) :
    (n.alter uid f).alter uid g = n.alter uid (g ∘ f) := by
  unfold alter
  rw [Roster.modify_modify]

theorem device?_alter {d : Device} (f : Device → Device) (h : n.device? uid = some d) :
    (n.alter uid f).device? uid = some (f d) := by
  unfold device? at h ⊢
  rw [get?_alter, h, Option.map_some, if_pos rfl]

theorem device_eq_ok_iff {d : Device} : n.device uid = .ok d ↔ n.device? uid = some d := by
  rw [device]
  cases n.device? uid <;> simp

theorem tame_device : Tame (n.device uid) := by
  rw [device]
  cases n.device? uid with
  | some d => exact tame_ok d
  | none => exact tame_error rfl

theorem update_eq_ok_iff {f : Device → Device} :
    n.update uid f = .ok m ↔ (∃ d, n.device? uid = some d) ∧ m = n.alter uid f := by
  rw [update]
  cases n.device? uid with
  | none => simp
  | some d => simp [alter, eq_comm]

theorem tame_update {f : Device → Device} : Tame (n.update uid f) := by
  rw [update]
  cases n.device? uid with
  | some d => exact tame_ok _
  | none => exact tame_error rfl

/-! ## Interfaces -/

/-- An interface is there, or it is made with every setting at its usual value. -/
theorem ensureInterface_eq_ok {name : Value} {i : Interface}
    (h : n.ensureInterface uid name = .ok (i, m)) :
    ∃ d k, n.device? uid = some d ∧ name.key = .ok k ∧
      ((d.interfaces.get? k = some i ∧ m = n) ∨
        (d.interfaces.get? k = none ∧ i = { key := name } ∧
          m = n.alter uid (·.putInterface { key := name }))) := by
  obtain ⟨d, hd, h⟩ := bind_eq_ok_iff.1 h
  obtain ⟨found, hfound, h⟩ := bind_eq_ok_iff.1 h
  obtain ⟨k, hk, hget⟩ := map_eq_ok_iff.1 hfound
  refine ⟨d, k, device_eq_ok_iff.1 hd, hk, ?_⟩
  cases found with
  | some j =>
    obtain ⟨rfl, rfl⟩ : j = i ∧ n = m := by simpa using h
    exact Or.inl ⟨hget, rfl⟩
  | none =>
    obtain ⟨n', hn', h⟩ := bind_eq_ok_iff.1 h
    obtain ⟨rfl, rfl⟩ : ({ key := name } : Interface) = i ∧ n' = m := by simpa using h
    exact Or.inr ⟨hget, rfl, (update_eq_ok_iff.1 hn').2⟩

theorem tame_ensureInterface {name : Value} : Tame (n.ensureInterface uid name) := by
  refine tame_bind tame_device fun d _ => ?_
  refine tame_bind (tame_map (Value.tame_key name)) fun found _ => ?_
  cases found with
  | some i => exact tame_pure _
  | none => exact tame_bind tame_update fun _ _ => tame_pure _

/-- An interface that is changed was there, and stays under its name. -/
theorem editInterface_eq_ok {name : Value} {f : Interface → Interface} {i : Interface}
    (h : n.editInterface uid name f = .ok (i, m)) :
    ∃ d k old, n.device? uid = some d ∧ name.key = .ok k ∧ d.interfaces.get? k = some old ∧
      i = { f old with key := old.key } ∧ m = n.alter uid (·.putInterface i) := by
  obtain ⟨d, hd, h⟩ := bind_eq_ok_iff.1 h
  obtain ⟨found, hfound, h⟩ := bind_eq_ok_iff.1 h
  obtain ⟨k, hk, hget⟩ := map_eq_ok_iff.1 hfound
  cases found with
  | none => simp at h
  | some old =>
    obtain ⟨n', hn', h⟩ := bind_eq_ok_iff.1 h
    obtain ⟨rfl, rfl⟩ : ({ f old with key := old.key } : Interface) = i ∧ n' = m := by
      simpa using h
    exact ⟨d, k, old, device_eq_ok_iff.1 hd, hk, hget, rfl, (update_eq_ok_iff.1 hn').2⟩

/-- If a change of an interface says that something is lost, the device never had the interface. -/
theorem editInterface_eq_error {name : Value} {f : Interface → Interface} {e : Fault}
    (h : n.editInterface uid name f = .error e) (he : e.isLost = true) :
    ∃ d, n.device? uid = some d ∧ d.interface? name = .ok none ∧
      e = .neverEnsured name.display d.uid := by
  rcases bind_eq_error_iff.1 h with h | ⟨d, hd, h⟩
  · rw [tame_device e h] at he
    cases he
  rcases bind_eq_error_iff.1 h with h | ⟨found, hfound, h⟩
  · rw [tame_map (Value.tame_key name) e h] at he
    cases he
  cases found with
  | none =>
    have hf : Fault.neverEnsured name.display d.uid = e := by
      simpa [throw, throwThe, MonadExceptOf.throw] using h
    exact ⟨d, device_eq_ok_iff.1 hd, hfound, hf.symm⟩
  | some old =>
    rcases bind_eq_error_iff.1 h with h | ⟨n', _, h⟩
    · rw [tame_update e h] at he
      cases he
    · simp at h

/-! ## Terminal lines -/

theorem editLine_eq_ok {line : Value} {f : Line → Line} {l : Line}
    (h : n.editLine uid line f = .ok (l, m)) :
    ∃ d name, n.device? uid = some d ∧ LineName.ofValue? line = some name ∧
      l = f ((d.lines.get? name).getD {}) ∧
      m = n.alter uid fun d => { d with lines := d.lines.set name (some l) } := by
  obtain ⟨d, hd, h⟩ := bind_eq_ok_iff.1 h
  cases hname : LineName.ofValue? line with
  | none => simp [hname] at h
  | some name =>
    rw [hname] at h
    obtain ⟨n', hn', h⟩ := bind_eq_ok_iff.1 h
    obtain ⟨rfl, rfl⟩ : f ((d.lines.get? name).getD {}) = l ∧ n' = m := by simpa using h
    exact ⟨d, name, device_eq_ok_iff.1 hd, rfl, rfl, (update_eq_ok_iff.1 hn').2⟩

theorem tame_editLine {line : Value} {f : Line → Line} : Tame (n.editLine uid line f) := by
  refine tame_bind tame_device fun d _ => ?_
  cases LineName.ofValue? line with
  | none => exact tame_throw rfl
  | some name => exact tame_bind tame_update fun _ _ => tame_pure _

/-! ## VLANs -/

theorem setVlan_eq_ok {vlan : Int} {name : Value} (h : n.setVlan uid vlan name = .ok (.ok m)) :
    ∃ d, n.device? uid = some d ∧ d.supportsVlans = true ∧ minVlan ≤ vlan ∧ vlan ≤ maxVlan ∧
      m = n.alter uid fun d => { d with vlans := writeVlan vlan name d.vlans } := by
  obtain ⟨d, hd, h⟩ := bind_eq_ok_iff.1 h
  by_cases hs : d.supportsVlans = true
  · by_cases hv : vlan < minVlan ∨ maxVlan < vlan
    · simp [hs, hv] at h
    · simp only [hs, Bool.not_true, Bool.false_eq_true, ↓reduceIte, Bool.or_eq_true,
        decide_eq_true_eq, hv] at h
      obtain ⟨n', hn', h⟩ := bind_eq_ok_iff.1 h
      obtain rfl : n' = m := by simpa using h
      rw [not_or, Int.not_lt, Int.not_lt] at hv
      exact ⟨d, device_eq_ok_iff.1 hd, hs, hv.1, hv.2, (update_eq_ok_iff.1 hn').2⟩
  · simp [hs] at h

theorem tame_setVlan {vlan : Int} {name : Value} : Tame (n.setVlan uid vlan name) := by
  refine tame_bind tame_device fun d _ => ?_
  split
  · exact tame_pure _
  · split
    · exact tame_pure _
    · exact tame_bind tame_update fun _ _ => tame_pure _

/-- A VLAN that is asked for by a whole number is one that is asked for by a value. -/
theorem setVlanOf_int (vlan : Int) (name : Value) :
    n.setVlanOf uid (.int vlan) name = match n.setVlan uid vlan name with
      | .ok (.ok n) => (.ok none, n)
      | .ok (.error r) => (.ok (some r), n)
      | .error f => (.error f, n) := rfl

/-- A VLAN may be asked for by any value, and the change may fail half-way: the VLAN table of the
device is all that it reaches. -/
theorem setVlanOf_cases (n : Network) (uid : String) (vlan name : Value) :
    (n.setVlanOf uid vlan name).2 = n ∨ ∃ table : Device → Index Int Value,
      (n.setVlanOf uid vlan name).2 = n.alter uid fun d => { d with vlans := table d } := by
  have whole : ∀ v : Int, (n.setVlanOf uid (.int v) name).2 = n ∨
      ∃ table : Device → Index Int Value,
        (n.setVlanOf uid (.int v) name).2 = n.alter uid fun d => { d with vlans := table d } := by
    intro v
    rw [setVlanOf_int]
    split
    · next h =>
      obtain ⟨_, _, _, _, _, rfl⟩ := setVlan_eq_ok h
      exact Or.inr ⟨_, rfl⟩
    · exact Or.inl rfl
    · exact Or.inl rfl
  unfold setVlanOf
  split
  · exact whole _
  · exact whole _
  · unfold setVlanAt
    split
    · exact Or.inl rfl
    · split
      · exact Or.inl rfl
      · split
        · exact Or.inl rfl
        · split
          · exact Or.inr ⟨_, rfl⟩
          · exact Or.inr ⟨_, rfl⟩
  · split
    · exact Or.inl rfl
    · exact Or.inl rfl

/-- A VLAN is rejected before its table is reached. -/
theorem setVlanOf_of_rejected {vlan name : Value} {r : Rejection}
    (h : n.setVlanOf uid vlan name = (.ok (some r), m)) : m = n := by
  have whole : ∀ v : Int, n.setVlanOf uid (.int v) name = (.ok (some r), m) → m = n := by
    intro v h
    rw [setVlanOf_int] at h
    split at h
    · cases h
    · exact (Prod.mk.inj h).2.symm
    · cases h
  unfold setVlanOf at h
  split at h
  · exact whole _ h
  · exact whole _ h
  · unfold setVlanAt at h
    split at h
    · cases h
    · split at h
      · exact (Prod.mk.inj h).2.symm
      · split at h
        · exact (Prod.mk.inj h).2.symm
        · split at h <;> cases h
  · split at h
    · cases h
    · exact (Prod.mk.inj h).2.symm

theorem tame_setVlanAt {number : Double} {name : Value} :
    Tame (n.setVlanAt uid number name).1 := by
  unfold setVlanAt
  split
  · next f hf => exact tame_error (tame_device f hf)
  · split
    · exact tame_ok _
    · split
      · exact tame_ok _
      · split
        · exact tame_ok _
        · exact tame_error rfl

theorem tame_setVlanOf {vlan name : Value} : Tame (n.setVlanOf uid vlan name).1 := by
  have whole : ∀ v : Int, Tame (n.setVlanOf uid (.int v) name).1 := by
    intro v
    rw [setVlanOf_int]
    split
    · exact tame_ok _
    · exact tame_ok _
    · next f hf => exact tame_error (tame_setVlan f hf)
  unfold setVlanOf
  split
  · exact whole _
  · exact whole _
  · exact tame_setVlanAt
  · split
    · next f hf => exact tame_error (tame_device f hf)
    · split
      · exact tame_error rfl
      · exact tame_ok _

theorem removeVlan_eq_ok {vlan : Int} (h : n.removeVlan uid vlan = .ok (.ok m)) :
    ∃ d, n.device? uid = some d ∧ d.supportsVlans = true ∧ vlan ≠ 1 ∧
      m = n.alter uid fun d => { d with vlans := d.vlans.erase vlan } := by
  obtain ⟨d, hd, h⟩ := bind_eq_ok_iff.1 h
  by_cases hs : d.supportsVlans = true
  · by_cases hv : vlan = 1
    · simp [hs, hv] at h
    · simp only [hs, Bool.not_true, Bool.false_eq_true, ↓reduceIte, hv] at h
      obtain ⟨n', hn', h⟩ := bind_eq_ok_iff.1 h
      obtain rfl : n' = m := by simpa using h
      exact ⟨d, device_eq_ok_iff.1 hd, hs, hv, (update_eq_ok_iff.1 hn').2⟩
  · simp [hs] at h

/-- A VLAN may also be deleted by a value that is the id of none. -/
theorem removeVlanOf_eq_ok {vlan : Value} (h : n.removeVlanOf uid vlan = .ok (.ok m)) :
    m = n ∨ ∃ v, n.removeVlan uid v = .ok (.ok m) := by
  obtain ⟨d, _, h⟩ := bind_eq_ok_iff.1 h
  split at h
  · cases h
  · split at h
    · exact Or.inr ⟨_, h⟩
    · cases h
      exact Or.inl rfl
    · split at h
      · cases h
        exact Or.inl rfl
      · cases h

theorem tame_removeVlan {vlan : Int} : Tame (n.removeVlan uid vlan) := by
  refine tame_bind tame_device fun d _ => ?_
  split
  · exact tame_pure _
  · split
    · exact tame_pure _
    · exact tame_bind tame_update fun _ _ => tame_pure _

end Network

end NetLab
