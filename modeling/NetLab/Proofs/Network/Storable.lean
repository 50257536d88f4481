import NetLab.Proofs.Console.Change
import NetLab.Proofs.Document.Display
import NetLab.Proofs.Number.Numeral

set_option autoImplicit false

/-!
# Networks that documents can hold

Writing a network down and reading it back falls back to something else wherever a setting is not
given, or is of another kind than it is read as.  A network is storable if no such fallback can
strike: host names and labels are given, numbers are whole and short enough to be read, port modes
are legal, both terminal lines are there, and so on.  What a document describes is storable as long
as its labels are texts, and commands keep a network storable.
-/

namespace NetLab

/-! ## Interfaces -/

/-- The interface reads back as it is written. -/
structure Interface.Storable (i : Interface) : Prop where
  key : ∃ name, i.key = .text name
  shutdown : ∃ down, i.shutdown = .bool down
  mode : i.mode.isLegal = true
  accessVlan : ∃ vlan, i.accessVlan = .int vlan
  trunkAllowed : ∃ list, i.trunkAllowed = .text list ∧ list ≠ ""
  nativeVlan : ∃ vlan, i.nativeVlan = .int vlan

namespace Interface

variable {i : Interface}

theorem storable_new (name : String) : Storable { key := .text name } :=
  ⟨⟨name, rfl⟩, ⟨false, rfl⟩, rfl, ⟨1, rfl⟩, ⟨allVlans, rfl, by decide⟩, ⟨1, rfl⟩⟩

theorem isLegal_ofName {name : String} (h : name ∈ PortMode.names) :
    (PortMode.ofName name).isLegal = true := by
  rw [PortMode.names, List.mem_cons, List.mem_cons, List.mem_singleton] at h
  rcases h with rfl | rfl | rfl <;> decide

/-- Commands set an interface to what reads back. -/
theorem IsSetting.storable {f : Interface → Interface} (h : IsSetting f) (hi : i.Storable) :
    (f i).Storable := by
  obtain ⟨key, shutdown, mode, accessVlan, trunkAllowed, nativeVlan⟩ := hi
  cases h with
  | shutdown down => exact ⟨key, ⟨down, rfl⟩, mode, accessVlan, trunkAllowed, nativeVlan⟩
  | portMode known =>
    exact ⟨key, shutdown, isLegal_ofName known, accessVlan, trunkAllowed, nativeVlan⟩
  | accessVlan _ _ => exact ⟨key, shutdown, mode, ⟨_, rfl⟩, trunkAllowed, nativeVlan⟩
  | trunkAllowed named => exact ⟨key, shutdown, mode, accessVlan, ⟨_, rfl, named⟩, nativeVlan⟩
  | nativeVlan _ _ => exact ⟨key, shutdown, mode, accessVlan, trunkAllowed, ⟨_, rfl⟩⟩
  | _ => exact ⟨key, shutdown, mode, accessVlan, trunkAllowed, nativeVlan⟩

end Interface

/-! ## Devices -/

/-- A VLAN table whose ids can be read and whose names are texts. -/
def StorableVlans (t : Index Int Value) : Prop :=
  ∀ vlan name, t.get? vlan = some name → Numeral.IsShort vlan ∧ ∃ s, name = .text s

theorem StorableVlans.put {t : Index Int Value} (h : StorableVlans t) {vlan : Int} (name : String)
    (hv : Numeral.IsShort vlan) : StorableVlans (t.put vlan (.text name)) :=
  Index.forall_put h ⟨hv, name, rfl⟩

theorem StorableVlans.putNew {t : Index Int Value} (h : StorableVlans t) {vlan : Int}
    (name : String) (hv : Numeral.IsShort vlan) : StorableVlans (t.putNew vlan (.text name)) := by
  rw [Index.putNew]
  split
  · exact h
  · exact h.put name hv

theorem StorableVlans.erase {t : Index Int Value} (h : StorableVlans t) (vlan : Int) :
    StorableVlans (t.erase vlan) := by
  intro v x hx
  exact h v x (Index.get?_erase_eq_some_iff.1 hx).2

/-- The ids that commands take are short. -/
theorem isShort_of_range {vlan : Int} (low : minVlan ≤ vlan) (high : vlan ≤ maxVlan) :
    Numeral.IsShort vlan := by
  have hsmall : vlan.natAbs < 10 ^ 4 := by
    rw [minVlan] at low
    rw [maxVlan] at high
    omega
  exact Nat.lt_of_lt_of_le hsmall (Nat.pow_le_pow_right (by decide) (by decide))

/-- The device reads back as it is written. -/
structure Device.Storable (d : Device) : Prop where
  label : d.label.given = true
  hostname : ∃ name, d.hostname = .text name ∧ name ≠ ""
  address : d.address.ifGiven = d.address
  domainName : d.domainName.ifGiven = d.domainName
  displayVlan : d.displayVlan = .null ∨ ∃ vlan, d.displayVlan = .int vlan
  vlans : StorableVlans d.vlans
  interfaces : ∀ k i, d.interfaces.get? k = some i → i.Storable
  lines : ∀ name, ∃ l, d.lines.get? name = some l ∧ ∃ required, l.login = .bool required

theorem Line.IsSetting.keepsLogin {f : Line → Line} (h : IsSetting f) {l : Line}
    (hl : ∃ required, l.login = .bool required) : ∃ required, (f l).login = .bool required := by
  cases h with
  | login required => exact ⟨required, rfl⟩
  | _ => exact hl

theorem Lines.get?_set (t : Lines) (name other : LineName) (l : Option Line) :
    (t.set name l).get? other = if other = name then l else t.get? other := by
  cases name <;> cases other <;> rfl

namespace Device.Storable

variable {d : Device}

theorem new {uid label : String} {kind : Kind} {status : Status} {given : Value}
    (named : uid ≠ "") (h : given = .null ∨ given = .text label) :
    (Device.new uid kind given .null status).Storable := by
  have labelled : ∃ name, (if given.given then given else .text uid) = Value.text name ∧
      name ≠ "" := by
    rcases h with rfl | rfl
    · exact ⟨uid, rfl, named⟩
    · split
      · next hg => exact ⟨label, rfl, by simpa [Value.given] using hg⟩
      · exact ⟨uid, rfl, named⟩
  obtain ⟨name, hname, hne⟩ := labelled
  have hgiven : (Value.text name).given = true := by simp [Value.given, hne]
  refine ⟨?_, ⟨name, hname, hne⟩, rfl, rfl, Or.inl rfl, ?_, fun k i hi => ?_, ?_⟩
  · change (if given.given then given else Value.text uid).given = true
    rw [hname, hgiven]
  · have hone : Numeral.IsShort 1 := isShort_of_range (by decide) (by decide)
    exact StorableVlans.put (fun v x hx => by cases hx) firstVlanName hone
  · cases hi
  · intro line
    cases line with
    | console => exact ⟨{}, rfl, false, rfl⟩
    | vty => exact ⟨{}, rfl, false, rfl⟩

theorem putInterface (h : d.Storable) {i : Interface} (hi : i.Storable) (k : Value) :
    ({ d with interfaces := d.interfaces.put k i } : Device).Storable :=
  ⟨h.label, h.hostname, h.address, h.domainName, h.displayVlan, h.vlans,
    Roster.forall_put h.interfaces hi, h.lines⟩

theorem withVlans (h : d.Storable) {t : Index Int Value} (ht : StorableVlans t) :
    ({ d with vlans := t } : Device).Storable :=
  ⟨h.label, h.hostname, h.address, h.domainName, h.displayVlan, ht, h.interfaces, h.lines⟩

theorem withDisplayVlan (h : d.Storable) (vlan : Int) :
    ({ d with displayVlan := .int vlan } : Device).Storable :=
  ⟨h.label, h.hostname, h.address, h.domainName, Or.inr ⟨vlan, rfl⟩, h.vlans, h.interfaces,
    h.lines⟩

theorem setLine (h : d.Storable) {name : LineName} {l : Line}
    (hl : ∃ required, l.login = .bool required) :
    ({ d with lines := d.lines.set name (some l) } : Device).Storable := by
  refine ⟨h.label, h.hostname, h.address, h.domainName, h.displayVlan, h.vlans, h.interfaces, ?_⟩
  intro other
  rw [Lines.get?_set]
  split
  · exact ⟨l, rfl, hl⟩
  · exact h.lines other

end Device.Storable

/-- Commands keep a device storable. -/
theorem Device.Edit.storable {p : Place} {d d' : Device} (h : d.Edit p d') (hd : d.Storable) :
    d'.Storable := by
  cases h with
  | name _ named =>
    exact ⟨by simpa [Value.given] using named, ⟨_, rfl, named⟩, hd.address, hd.domainName,
      hd.displayVlan, hd.vlans, hd.interfaces, hd.lines⟩
  | domainName name _ =>
    exact ⟨hd.label, hd.hostname, hd.address, Value.ifGiven_ifGiven _, hd.displayVlan, hd.vlans,
      hd.interfaces, hd.lines⟩
  | routing _ _ =>
    exact ⟨hd.label, hd.hostname, hd.address, hd.domainName, hd.displayVlan, hd.vlans,
      hd.interfaces, hd.lines⟩
  | addVlan _ low high _ => exact hd.withVlans (hd.vlans.put _ (isShort_of_range low high))
  | removeVlan _ _ => exact hd.withVlans (hd.vlans.erase _)
  | @addInterface name _ _ => exact hd.putInterface (Interface.storable_new name) _
  | setInterface _ _ there setting =>
    exact hd.putInterface (setting.storable (hd.interfaces _ _ there)) _
  | nameVlan _ _ there =>
    obtain ⟨old, hold⟩ := Index.contains_iff.1 there
    exact hd.withVlans (hd.vlans.put _ (hd.vlans _ _ hold).1)
  | @setLine name f _ _ setting =>
    obtain ⟨l, hl, login⟩ := hd.lines name
    refine hd.setLine (setting.keepsLogin ?_)
    rw [hl]
    exact login

/-! ## Networks -/

namespace Network

variable {n m : Network}

/-- The network reads back as it is written. -/
structure Storable (n : Network) : Prop where
  proper : n.Proper
  devices : ∀ uid d, n.devices.get? uid = some d → d.Storable
  links : ∀ k l, n.links.get? k = some l → k = l.id ∧ (∃ id, l.id = .text id ∧ id ≠ "") ∧
    n.devices.contains l.source = true ∧ n.devices.contains l.target = true

theorem storable_empty : empty.Storable where
  proper := proper_empty
  devices := by
    intro uid d h
    cases h
  links := by
    intro k l h
    cases h

namespace Storable

/-- A change of devices that takes none away keeps the links in place. -/
theorem of_devices (h : n.Storable) (hm : m.Proper)
    (devices : ∀ uid d, m.devices.get? uid = some d → d.Storable) (links : m.links = n.links)
    (there : ∀ uid, n.devices.contains uid = true → m.devices.contains uid = true) :
    m.Storable where
  proper := hm
  devices := devices
  links := by
    intro k l hl
    rw [links] at hl
    obtain ⟨hk, hid, hsource, htarget⟩ := h.links k l hl
    exact ⟨hk, hid, there _ hsource, there _ htarget⟩

theorem alter {uid : String} {f : Device → Device} (h : n.Storable) (hm : (n.alter uid f).Proper)
    (hf : ∀ d, n.device? uid = some d → (f d).Storable) : (n.alter uid f).Storable := by
  refine h.of_devices hm (fun k d hd => ?_) rfl fun k hk => ?_
  · rw [get?_alter, Option.map_eq_some_iff] at hd
    obtain ⟨old, hold, rfl⟩ := hd
    split
    · next hk =>
      rw [hk] at hold
      exact hf old hold
    · exact h.devices k old hold
  · rw [Roster.contains_iff] at hk ⊢
    obtain ⟨d, hd⟩ := hk
    exact ⟨_, by rw [get?_alter, hd, Option.map_some]⟩

end Storable

end Network

/-- Commands keep a network storable. -/
theorem Scene.Change.storable {s s' : Scene} {d : Device} (h : s.Change d s')
    (hn : s.network.Storable) (found : s.network.devices.get? d.uid = some d) :
    s'.network.Storable := by
  have trimmed : Text.trim d.uid = d.uid := (hn.proper _ _ found).trimmed
  have edited : ∀ f : Device → Device, d.Edit s.standing.place (f d) →
      (s.network.alter d.uid f).Storable := by
    intro f edit
    have proper := hn.proper.alter_of_found found (edit.proper (hn.proper _ _ found))
    refine hn.alter proper fun x hx => ?_
    rw [Network.device?, trimmed] at hx
    obtain rfl : d = x := Option.some.inj (found.symm.trans hx)
    exact edit.storable (hn.devices _ _ found)
  have proper := h.proper hn.proper found
  cases h with
  | stay _ => exact hn
  | edit edit _ => exact edited _ edit
  | tag edit _ _ _ _ _ _ =>
    refine (edited _ edit).alter proper fun x hx => ?_
    exact ((edited _ edit).devices _ _ hx).withDisplayVlan _

end NetLab
