import NetLab.Proofs.Network.Build
import NetLab.Proofs.Network.Typed

set_option autoImplicit false

/-!
# VLAN tables

VLANs come into a table by five commands, two operations and documents, each with a check of its
own.  This module says what each operation that a command makes can do to the table of a device
(`Operation.Changes`): write a VLAN that was asked for, drop one other than VLAN 1, or nothing, and
anything only on a switch.  So VLAN ids stay in their range (`Network.InVlans.apply`).
-/

namespace NetLab

open Network (Operation)

/-! ## VLANs in range -/

/-- The access VLAN and the native VLAN of the interface are VLAN ids. -/
structure Interface.InVlans (i : Interface) : Prop where
  access : i.accessVlan.IsVlan
  native : i.nativeVlan.IsVlan

/-- A change of an interface leaves VLAN ids in place. -/
def Interface.KeepsVlans (f : Interface → Interface) : Prop := ∀ i, i.InVlans → (f i).InVlans

/-- The VLANs of the device and of its interfaces are in range, and VLAN 1 is one of them. -/
structure Device.InVlans (d : Device) : Prop where
  table : TypedVlans d.vlans
  first : d.vlans.contains 1 = true
  interfaces : ∀ k i, d.interfaces.get? k = some i → i.InVlans

/-- The VLANs of every device are in range. -/
def Network.InVlans (n : Network) : Prop := ∀ uid d, n.devices.get? uid = some d → d.InVlans

theorem Interface.Typed.inVlans {i : Interface} (h : i.Typed) : i.InVlans :=
  ⟨h.accessVlan, h.nativeVlan⟩

theorem Network.Typed.inVlans {n : Network} (h : n.Typed) (proper : n.Proper) : n.InVlans :=
  fun uid d hd => ⟨(h uid d hd).vlans, (proper uid d hd).firstVlan,
    fun k i hi => ((h uid d hd).interfaces k i hi).inVlans⟩

/-! ## Writing into a table -/

theorem Index.get?_putNew {t : Index Int Value} {vlan v : Int} {name : Value} :
    (t.putNew vlan name).get? v =
      if v = vlan then some ((t.get? vlan).getD name) else t.get? v := by
  cases there : t.get? vlan with
  | some x =>
    rw [putNew_of_get? there]
    split
    · next same => rw [same, there, Option.getD_some]
    · rfl
  | none =>
    have new : ¬ t.contains vlan = true := by rw [contains_iff, there]; rintro ⟨_, ⟨⟩⟩
    rw [putNew, if_neg new, get?_put, Option.getD_none]

/-- The VLAN that is written has the name that was given, or else the one that it had, or else the
name that VLANs have by default; no other VLAN changes. -/
theorem Network.get?_writeVlan {t : Index Int Value} (first : t.contains 1 = true) (vlan v : Int)
    (name : Value) : (writeVlan vlan name t).get? v =
      if v = vlan then
        some (if name.given then name else (t.get? vlan).getD (.text (defaultVlanName vlan)))
      else t.get? v := by
  obtain ⟨x, hx⟩ := Index.contains_iff.1 first
  rw [writeVlan, Index.putNew_of_get? hx]
  split
  · rw [Index.get?_put, Index.get?_putNew]
    split
    · rfl
    · rfl
  · rw [Index.get?_putNew]

/-! ## What operations do to tables -/

/-- The table of a switch after an operation on it which changes the table. -/
inductive Network.Operation.Writes (uid : String) (t : Index Int Value) :
    Operation → Index Int Value → Prop where
  /-- a VLAN is written whose id was given as a whole number, or which is there -/
  | set {u : String} {vlan name : Value} {v : Int} (on : Text.trim u = uid)
      (number : (vlan = .int v ∧ minVlan ≤ v ∧ v ≤ maxVlan) ∨ t.contains v = true) :
      Writes uid t (.setVlan u vlan name) (Network.writeVlan v name t)
  | remove {u : String} {vlan : Value} {v : Int} (on : Text.trim u = uid) (other : v ≠ 1) :
      Writes uid t (.removeVlan u vlan) (t.erase v)

/-- What is written into a table of VLAN ids is a VLAN id. -/
theorem Network.Operation.Writes.typed {op : Operation} {uid : String} {t t' : Index Int Value}
    (h : op.Writes uid t t') (first : t.contains 1 = true) (typed : TypedVlans t) :
    TypedVlans t' := by
  intro v name hv
  cases h with
  | set _ number =>
    rw [get?_writeVlan first] at hv
    split at hv
    · next same =>
      rw [same]
      rcases number with ⟨-, low, high⟩ | known
      · exact ⟨low, high⟩
      · obtain ⟨old, hold⟩ := Index.contains_iff.1 known
        exact typed _ old hold
    · exact typed v name hv
  | remove _ _ =>
    exact typed v name (Index.get?_erase_eq_some_iff.1 hv).2

/-- What an operation may make of a device that stands under an id. -/
structure Network.Operation.Changes (op : Operation) (uid : String) (d d' : Device) : Prop where
  kind : d'.kind = d.kind
  vlans : d'.vlans = d.vlans ∨ d.supportsVlans = true ∧ op.Writes uid d.vlans d'.vlans
  interfaces : (∀ k i, d.interfaces.get? k = some i → i.InVlans) →
    ∀ k i, d'.interfaces.get? k = some i → i.InVlans

/-- The operation configures a device and leaves VLAN ids in place. -/
def Network.Operation.Careful : Operation → Prop
  | .editInterface _ _ f => Interface.KeepsVlans f
  | op => op.configures = true

namespace Network

variable {n m : Network} {op : Operation}

theorem Operation.Careful.configures (h : op.Careful) : op.configures = true := by
  cases op with
  | editInterface _ _ _ => rfl
  | _ => exact h

/-- Every device was changed as an operation may change it. -/
def Changed (op : Operation) (n m : Network) : Prop :=
  ∀ uid d, n.devices.get? uid = some d →
    ∃ d', m.devices.get? uid = some d' ∧ op.Changes uid d d'

namespace Operation.Changes

variable {uid : String} {d d' : Device}

theorem of_same (kind : d'.kind = d.kind) (vlans : d'.vlans = d.vlans)
    (interfaces : d'.interfaces = d.interfaces) : op.Changes uid d d' :=
  ⟨kind, .inl vlans, fun h => interfaces ▸ h⟩

theorem refl (d : Device) : op.Changes uid d d := of_same rfl rfl rfl

theorem putInterface {i : Interface} (hi : (∀ k j, d.interfaces.get? k = some j → j.InVlans) →
    i.InVlans) : op.Changes uid d (d.putInterface i) :=
  ⟨rfl, .inl rfl, fun h => Roster.forall_put h (hi h)⟩

end Operation.Changes

theorem changed_self (op : Operation) (n : Network) : Changed op n n :=
  fun _ d hd => ⟨d, hd, .refl d⟩

theorem changed_alter {u : String} {f : Device → Device}
    (hf : ∀ d, n.device? u = some d → op.Changes (Text.trim u) d (f d)) :
    Changed op n (n.alter u f) := by
  intro uid d hd
  rw [get?_alter, hd, Option.map_some]
  refine ⟨_, rfl, ?_⟩
  split
  · next same =>
    rw [same] at hd ⊢
    exact hf d hd
  · exact .refl d

theorem changed_writeVlan {u : String} {vlan name : Value} {v : Int} {d : Device}
    (found : n.device? u = some d) (switch : d.supportsVlans = true)
    (number : (vlan = .int v ∧ minVlan ≤ v ∧ v ≤ maxVlan) ∨ d.vlans.contains v = true) :
    Changed (.setVlan u vlan name) n
      (n.alter u fun d => { d with vlans := writeVlan v name d.vlans }) := by
  refine changed_alter fun x hx => ?_
  obtain rfl : d = x := Option.some.inj (found.symm.trans hx)
  exact ⟨rfl, .inr ⟨switch, .set rfl number⟩, fun h => h⟩

/-- A double writes a VLAN only if it is the id of one that is there. -/
theorem changed_setVlanAt (proper : n.Proper) (u : String) (number : Double) (name : Value) :
    Changed (.setVlan u (.float number) name) n (n.setVlanAt u number name).2 := by
  have full : ∀ d, n.device? u = some d → d.fullVlans = d.vlans := by
    intro d hd
    obtain ⟨name, first⟩ := Index.contains_iff.1 (proper _ _ hd).firstVlan
    exact Index.putNew_of_get? first
  unfold setVlanAt
  split
  · exact changed_self _ n
  · next d hd =>
    rw [device_eq_ok_iff] at hd
    split
    · exact changed_self _ n
    · next switch =>
      split
      · exact changed_self _ n
      · split
        · next v found =>
          refine changed_writeVlan hd (by simpa using switch) (.inr ?_)
          rw [← full d hd]
          exact (Option.filter_eq_some_iff.1 found).2
        · exact changed_alter fun x hx => .of_same rfl (full x hx) rfl

/-- Whatever value a VLAN is asked for by, it is written if the id was given as a whole number or is
there already. -/
theorem changed_setVlanOf (proper : n.Proper) (u : String) (vlan name : Value) :
    Changed (.setVlan u vlan name) n (n.setVlanOf u vlan name).2 := by
  have whole : ∀ v : Int, (minVlan ≤ v → v ≤ maxVlan → ∀ d, n.device? u = some d →
        (vlan = .int v ∧ minVlan ≤ v ∧ v ≤ maxVlan) ∨ d.vlans.contains v = true) →
      Changed (.setVlan u vlan name) n (n.setVlanOf u (.int v) name).2 := by
    intro v number
    rw [setVlanOf_int]
    split
    · next m hm =>
      obtain ⟨d, hd, switch, low, high, rfl⟩ := setVlan_eq_ok hm
      exact changed_writeVlan hd switch (number low high d hd)
    · exact changed_self _ n
    · exact changed_self _ n
  cases vlan with
  | int v => exact whole v fun low high _ _ => .inl ⟨rfl, low, high⟩
  | bool b =>
    -- a truth value is 1 or 0, and 0 is no VLAN id
    refine whole (if b then 1 else 0) fun low _ d hd => .inr ?_
    cases b with
    | true => exact (proper _ _ hd).firstVlan
    | false => exact absurd low (by decide)
  | float number => exact changed_setVlanAt proper u number name
  | _ =>
    unfold setVlanOf
    dsimp only
    split
    · exact changed_self _ n
    · exact changed_self _ n

theorem changed_removeVlanOf {u : String} {vlan : Value}
    (h : n.removeVlanOf u vlan = .ok (.ok m)) : Changed (.removeVlan u vlan) n m := by
  obtain rfl | ⟨v, removed⟩ := removeVlanOf_eq_ok h
  · exact changed_self _ _
  · obtain ⟨d, hd, switch, other, rfl⟩ := removeVlan_eq_ok removed
    refine changed_alter fun x hx => ?_
    obtain rfl : d = x := Option.some.inj (hd.symm.trans hx)
    exact ⟨rfl, .inr ⟨switch, .remove rfl other⟩, fun h => h⟩

/-- What an operation that a command makes, or a request for a VLAN, does to the devices. -/
theorem changed_apply (proper : n.Proper) (careful : op.Careful) : Changed op n (n.apply op) := by
  -- most settings are neither interfaces nor VLANs
  have setting : ∀ (u : String) (f : Device → Device), (∀ d, (f d).kind = d.kind) →
      (∀ d, (f d).vlans = d.vlans) → (∀ d, (f d).interfaces = d.interfaces) →
      Changed op n (n.after (n.update u f)) := by
    intro u f hk hv hi
    refine after_induction (changed_self _ n) fun m hm => ?_
    obtain ⟨-, rfl⟩ := update_eq_ok_iff.1 hm
    exact changed_alter fun d _ => .of_same (hk d) (hv d) (hi d)
  have configures := careful.configures
  cases op with
  | ensureInterface u name =>
    refine after_map_induction (changed_self _ n) fun i m hm => ?_
    obtain ⟨d, k, -, -, ⟨-, rfl⟩ | ⟨-, -, rfl⟩⟩ := ensureInterface_eq_ok hm
    · exact changed_self _ _
    · exact changed_alter fun d _ => .putInterface fun _ => (Interface.typed_new name).inVlans
  | editInterface u name f =>
    refine after_map_induction (changed_self _ n) fun i m hm => ?_
    obtain ⟨d, k, old, hd, -, there, rfl, rfl⟩ := editInterface_eq_ok hm
    refine changed_alter fun x hx => .putInterface fun h => ?_
    obtain rfl : d = x := Option.some.inj (hd.symm.trans hx)
    have kept := careful old (h k old there)
    exact ⟨kept.access, kept.native⟩
  | editLine u line f =>
    refine after_map_induction (changed_self _ n) fun l m hm => ?_
    obtain ⟨_, _, _, _, _, rfl⟩ := editLine_eq_ok hm
    exact changed_alter fun d _ => .of_same rfl rfl rfl
  | setVlan u vlan name => exact changed_setVlanOf proper u vlan name
  | removeVlan u vlan =>
    exact afterChange_induction (changed_self _ n) fun m hm => changed_removeVlanOf hm
  | setStatus u status =>
    refine after_induction (changed_self _ n) fun m hm => ?_
    obtain ⟨x, -, hm⟩ := bind_eq_ok_iff.1 hm
    obtain ⟨-, rfl⟩ := update_eq_ok_iff.1 hm
    exact changed_alter fun d _ => .of_same rfl rfl rfl
  | setHostname u name => exact setting u _ (fun _ => rfl) (fun _ => rfl) fun _ => rfl
  | setRouting u enabled => exact setting u _ (fun _ => rfl) (fun _ => rfl) fun _ => rfl
  | setAddress u ip => exact setting u _ (fun _ => rfl) (fun _ => rfl) fun _ => rfl
  | setDisplayVlan u vlan => exact setting u _ (fun _ => rfl) (fun _ => rfl) fun _ => rfl
  | setDomainName u name => exact setting u _ (fun _ => rfl) (fun _ => rfl) fun _ => rfl
  | reset => cases configures
  | addDevice _ => cases configures
  | removeDevice _ => cases configures
  | addLink _ _ _ => cases configures
  | removeLink _ => cases configures
  | importDevice _ => cases configures
  | importDocument _ => cases configures

/-! ## What operations keep in range -/

/-- No device is new after an operation that configures one. -/
theorem keys_apply (n : Network) (configures : op.configures = true) :
    (n.apply op).devices.keys = n.devices.keys := by
  obtain same | ⟨uid, f, altered⟩ := n.altered_of_configures configures
  · rw [same]
  · rw [altered, keys_alter]

namespace InVlans

theorem apply (h : n.InVlans) (proper : n.Proper) (careful : op.Careful) :
    (n.apply op).InVlans := by
  intro uid d' hd'
  have there : n.devices.contains uid = true := by
    rw [← Roster.contains_congr (keys_apply n careful.configures)]
    exact Roster.contains_iff.2 ⟨d', hd'⟩
  obtain ⟨d, hd⟩ := Roster.contains_iff.1 there
  obtain ⟨x, hx, changes⟩ := changed_apply proper careful uid d hd
  obtain rfl : x = d' := Option.some.inj (hx.symm.trans hd')
  refine ⟨?_, (proper.apply op _ _ hd').firstVlan, changes.interfaces (h uid d hd).interfaces⟩
  obtain same | ⟨-, writes⟩ := changes.vlans
  · rw [same]
    exact (h uid d hd).table
  · exact writes.typed (h uid d hd).first (h uid d hd).table

theorem addDevice {e : Entry} {d : Device} (h : n.InVlans) (proper : n.Proper)
    (hm : n.addDevice e = .ok (d, m)) : m.InVlans := by
  have properThen := (proper.addDevice hm).1
  obtain ⟨rfl, -⟩ | ⟨-, rfl, kind, status, -, -, -, new⟩ := addDevice_eq_ok proper hm
  · exact h
  · intro uid x hx
    have first := (properThen _ _ hx).firstVlan
    rw [Roster.get?_put] at hx
    split at hx
    · obtain rfl := Option.some.inj hx
      refine ⟨?_, first, fun k i hi => ?_⟩
      · rw [new]
        exact .first
      · rw [new] at hi
        cases hi
    · exact h uid x hx

end InVlans

end Network

end NetLab
