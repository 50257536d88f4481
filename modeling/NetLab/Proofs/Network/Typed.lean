import NetLab.Proofs.Network.Storable

set_option autoImplicit false

/-!
# Networks of typed settings

A direct edit may put a value of any kind into most settings.  In a typed network every setting is
one that a topology document may hold: texts where texts belong, VLAN ids in their range, and
interfaces that carry the name under which they are kept.  Commands keep a network typed, because
all they put anywhere are texts, truth values and VLAN ids.
-/

namespace NetLab

/-- Nothing, or a text. -/
inductive Value.IsTextOrNull : Value → Prop where
  | null : IsTextOrNull .null
  | text (s : String) : IsTextOrNull (.text s)

theorem Value.IsTextOrNull.ofText? (s : Option String) : IsTextOrNull (.ofText? s) := by
  cases s with
  | none => exact .null
  | some s => exact .text s

theorem Value.IsTextOrNull.ifGiven {v : Value} (h : v.IsTextOrNull) : v.ifGiven.IsTextOrNull := by
  rw [Value.ifGiven]
  split
  · exact h
  · exact .null

/-- A whole number in the range of VLAN ids. -/
inductive Value.IsVlan : Value → Prop where
  | int {vlan : Int} (low : minVlan ≤ vlan) (high : vlan ≤ maxVlan) : IsVlan (.int vlan)

/-! ## Interfaces -/

/-- The settings of the interface are texts and VLAN ids where these belong, and it carries the name
under which it is kept. -/
structure Interface.Typed (i : Interface) : Prop where
  name : i.name = i.key
  description : i.description.IsTextOrNull
  ip : i.ip.IsTextOrNull
  mask : i.mask.IsTextOrNull
  accessVlan : i.accessVlan.IsVlan
  nativeVlan : i.nativeVlan.IsVlan

namespace Interface

variable {i : Interface}

theorem typed_new (key : Value) : Typed { key } :=
  ⟨rfl, .null, .null, .null, .int (by decide) (by decide), .int (by decide) (by decide)⟩

/-- Commands put texts and VLAN ids where these belong. -/
theorem IsSetting.typed {f : Interface → Interface} (h : IsSetting f) (hi : i.Typed) :
    (f i).Typed := by
  obtain ⟨name, description, ip, mask, accessVlan, nativeVlan⟩ := hi
  cases h with
  | accessVlan low high => exact ⟨name, description, ip, mask, .int low high, nativeVlan⟩
  | nativeVlan low high => exact ⟨name, description, ip, mask, accessVlan, .int low high⟩
  | address _ _ => exact ⟨name, description, .text _, .text _, accessVlan, nativeVlan⟩
  | noAddress => exact ⟨name, description, .null, .null, accessVlan, nativeVlan⟩
  | description text => exact ⟨name, .text text, ip, mask, accessVlan, nativeVlan⟩
  | noDescription => exact ⟨name, .null, ip, mask, accessVlan, nativeVlan⟩
  | _ => exact ⟨name, description, ip, mask, accessVlan, nativeVlan⟩

end Interface

/-! ## Devices -/

/-- The ids of a VLAN table are in the range of VLAN ids. -/
def TypedVlans (t : Index Int Value) : Prop :=
  ∀ vlan name, t.get? vlan = some name → minVlan ≤ vlan ∧ vlan ≤ maxVlan

theorem TypedVlans.put {t : Index Int Value} (h : TypedVlans t) {vlan : Int} {name : Value}
    (low : minVlan ≤ vlan) (high : vlan ≤ maxVlan) : TypedVlans (t.put vlan name) :=
  Index.forall_put h ⟨low, high⟩

theorem TypedVlans.putNew {t : Index Int Value} (h : TypedVlans t) (name : Value) :
    TypedVlans (t.putNew 1 name) := by
  rw [Index.putNew]
  split
  · exact h
  · exact h.put (by decide) (by decide)

/-- The table of a new device has VLAN 1 only. -/
theorem TypedVlans.first : TypedVlans (Index.empty.put 1 (.text firstVlanName)) :=
  TypedVlans.put (fun v x hx => by cases hx) (by decide) (by decide)

/-- The settings of the device are texts, numbers and VLAN ids where these belong. -/
structure Device.Typed (d : Device) : Prop where
  label : ∃ label, d.label = .text label
  address : d.address.IsTextOrNull
  domainName : d.domainName.IsTextOrNull
  vlans : TypedVlans d.vlans
  interfaces : ∀ k i, d.interfaces.get? k = some i → i.Typed
  passwords : ∀ name l, d.lines.get? name = some l → l.password.IsTextOrNull

theorem Line.IsSetting.password_isTextOrNull {f : Line → Line} (h : IsSetting f) {l : Line}
    (hl : l.password.IsTextOrNull) : (f l).password.IsTextOrNull := by
  cases h with
  | password text => exact .text text
  | noPassword => exact .null
  | login _ => exact hl

namespace Device.Typed

variable {d : Device}

theorem withVlans (h : d.Typed) {t : Index Int Value} (ht : TypedVlans t) :
    ({ d with vlans := t } : Device).Typed :=
  ⟨h.label, h.address, h.domainName, ht, h.interfaces, h.passwords⟩

theorem putInterface (h : d.Typed) {i : Interface} (hi : i.Typed) (k : Value) :
    ({ d with interfaces := d.interfaces.put k i } : Device).Typed :=
  ⟨h.label, h.address, h.domainName, h.vlans, Roster.forall_put h.interfaces hi, h.passwords⟩

theorem setLine (h : d.Typed) {name : LineName} {l : Line} (hl : l.password.IsTextOrNull) :
    ({ d with lines := d.lines.set name (some l) } : Device).Typed := by
  refine ⟨h.label, h.address, h.domainName, h.vlans, h.interfaces, fun other x hx => ?_⟩
  rw [Lines.get?_set] at hx
  split at hx
  · obtain rfl := Option.some.inj hx
    exact hl
  · exact h.passwords other x hx

theorem new {uid label : String} {kind : Kind} {status : Status} {given : Value}
    (h : given = .null ∨ given = .text label) :
    (Device.new uid kind given .null status).Typed := by
  refine ⟨?_, .null, .null, .first, fun k i hi => ?_, fun name l hl => ?_⟩
  · change ∃ label, (if given.given then given else .text uid) = Value.text label
    rcases h with rfl | rfl
    · exact ⟨uid, rfl⟩
    · split
      · exact ⟨label, rfl⟩
      · exact ⟨uid, rfl⟩
  · cases hi
  · have fresh : l = {} := by
      cases name with
      | console => exact (Option.some.inj hl).symm
      | vty => exact (Option.some.inj hl).symm
    rw [fresh]
    exact .null

end Device.Typed

/-- Commands keep a device typed. -/
theorem Device.Edit.typed {p : Place} {d d' : Device} (h : d.Edit p d') (hd : d.Typed) :
    d'.Typed := by
  cases h with
  | @name name _ _ =>
    exact ⟨⟨name, rfl⟩, hd.address, hd.domainName, hd.vlans, hd.interfaces, hd.passwords⟩
  | domainName name _ =>
    exact ⟨hd.label, hd.address, Value.IsTextOrNull.ifGiven (.text name), hd.vlans,
      hd.interfaces, hd.passwords⟩
  | routing _ _ =>
    exact ⟨hd.label, hd.address, hd.domainName, hd.vlans, hd.interfaces, hd.passwords⟩
  | addVlan _ low high _ => exact hd.withVlans (hd.vlans.put low high)
  | removeVlan _ _ =>
    exact hd.withVlans fun v x hx => hd.vlans v x (Index.get?_erase_eq_some_iff.1 hx).2
  | addInterface _ _ => exact hd.putInterface (Interface.typed_new _) _
  | setInterface _ _ there setting =>
    exact hd.putInterface (setting.typed (hd.interfaces _ _ there)) _
  | nameVlan _ _ there =>
    obtain ⟨old, hold⟩ := Index.contains_iff.1 there
    obtain ⟨low, high⟩ := hd.vlans _ _ hold
    exact hd.withVlans (hd.vlans.put low high)
  | @setLine name f _ _ setting =>
    refine hd.setLine (setting.password_isTextOrNull ?_)
    cases hl : d.lines.get? name with
    | none => exact .null
    | some l => exact hd.passwords name l hl

/-! ## Networks -/

namespace Network

variable {n : Network}

/-- Every device of the network is typed. -/
def Typed (n : Network) : Prop := ∀ uid d, n.devices.get? uid = some d → d.Typed

theorem Typed.alter {uid : String} {f : Device → Device} (h : n.Typed)
    (hf : ∀ d, n.device? uid = some d → (f d).Typed) : (n.alter uid f).Typed := by
  intro k d hd
  rw [get?_alter, Option.map_eq_some_iff] at hd
  obtain ⟨old, hold, rfl⟩ := hd
  split
  · next hk =>
    rw [hk] at hold
    exact hf old hold
  · exact h k old hold

end Network

/-- Commands keep a network typed. -/
theorem Scene.Change.typed {s s' : Scene} {d : Device} (h : s.Change d s') (hn : s.network.Typed)
    (hp : s.network.Proper) (found : s.network.devices.get? d.uid = some d) :
    s'.network.Typed := by
  have trimmed : Text.trim d.uid = d.uid := (hp _ _ found).trimmed
  have edited : ∀ f : Device → Device, d.Edit s.standing.place (f d) →
      (s.network.alter d.uid f).Typed := by
    intro f edit
    refine hn.alter fun x hx => ?_
    rw [Network.device?, trimmed] at hx
    obtain rfl : d = x := Option.some.inj (found.symm.trans hx)
    exact edit.typed (hn _ _ found)
  cases h with
  | stay _ => exact hn
  | edit edit _ => exact edited _ edit
  | tag edit _ _ _ _ _ _ =>
    refine (edited _ edit).alter fun x hx => ?_
    have hx' := (edited _ edit) _ _ hx
    exact ⟨hx'.label, hx'.address, hx'.domainName, hx'.vlans, hx'.interfaces, hx'.passwords⟩

end NetLab
