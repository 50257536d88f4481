import NetLab.Proofs.Network.Stepwise

set_option autoImplicit false

/-!
# VLAN tables write by write

A VLAN is created or renamed in up to three writes: VLAN 1 is put into the table, then the VLAN that
is asked for, and then its name.  For a whole number nothing can fail behind the first of them.  A
double may turn out to be the id of no VLAN only then.
-/

namespace NetLab

open Reading

namespace Network

open Stepwise

variable {n : Network} {uid : String}

/-! ## Writes to a VLAN table -/

section Vlans

variable {d : Device} {id : Int} {f g : Index Int Value → Index Int Value}

theorem alterVlans_congr (hd : n.device? uid = some d) (h : f d.vlans = g d.vlans) :
    n.alterVlans uid f = n.alterVlans uid g :=
  alter_congr hd (by rw [h])

theorem alterVlans_of_eq (hd : n.device? uid = some d) (h : f d.vlans = d.vlans) :
    n.alterVlans uid f = n :=
  alter_of_eq hd (by rw [h])

theorem alterVlans_alterVlans (n : Network) (uid : String)
    (f g : Index Int Value → Index Int Value) :
    (n.alterVlans uid f).alterVlans uid g = n.alterVlans uid (g ∘ f) :=
  alter_alter n uid _ _

theorem device?_alterVlans (f : Index Int Value → Index Int Value) (hd : n.device? uid = some d) :
    ∃ d', (n.alterVlans uid f).device? uid = some d' ∧ d'.vlans = f d.vlans :=
  ⟨_, device?_alter _ hd, rfl⟩

theorem run_addVlan_of_contains {usual : Except Fault String} (hd : n.device? uid = some d)
    (there : d.vlans.contains id = true) :
    (Stepwise.addVlan uid id usual).run n = (.ok (), n) := by
  unfold Stepwise.addVlan
  rw [run_device_bind hd, if_pos there]
  rfl

theorem run_addVlan_of_error {e : Fault} (hd : n.device? uid = some d)
    (missing : d.vlans.contains id = false) :
    (Stepwise.addVlan uid id (.error e)).run n = (.error e, n) := by
  unfold Stepwise.addVlan
  rw [run_device_bind hd, if_neg (by simp [missing])]
  rfl

theorem run_addVlan (hd : n.device? uid = some d) (usual : String) :
    (Stepwise.addVlan uid id (.ok usual)).run n =
      (.ok (), n.alterVlans uid (·.putNew id (.text usual))) := by
  cases there : d.vlans.contains id with
  | true =>
    rw [run_addVlan_of_contains hd there, alterVlans_of_eq hd]
    rw [Index.putNew, if_pos there]
  | false =>
    have put : n.alterVlans uid (·.putNew id (.text usual)) =
        n.alterVlans uid (·.put id (.text usual)) := by
      refine alterVlans_congr hd ?_
      rw [Index.putNew, if_neg (by simp [there])]
    unfold Stepwise.addVlan
    rw [run_device_bind hd, if_neg (by simp [there]), put]
    rfl

theorem run_nameVlan (hd : n.device? uid = some d) (name : Value) :
    (Stepwise.nameVlan uid id name).run n =
      (.ok (), n.alterVlans uid fun t => if name.given then t.put id name else t) := by
  unfold Stepwise.nameVlan
  split
  · rfl
  · rw [alterVlans_of_eq hd rfl]
    rfl

end Vlans

/-! ## Steps on a VLAN table -/

/-- A whole number is the id of a VLAN, which has a name until it is given one. -/
theorem key_of_whole {vlan : Value} {id : Int} (whole : vlan.whole? = some id) :
    vlan.intKey = .ok (some id) ∧ defaultVlanNameOf vlan = .ok (defaultVlanName id) := by
  cases vlan with
  | int v =>
    obtain rfl := Option.some.inj whole
    exact ⟨rfl, rfl⟩
  | bool b =>
    obtain rfl := Option.some.inj whole
    exact ⟨rfl, rfl⟩
  | _ => cases whole

/-- What comes of a change of a VLAN table, which may be rejected. -/
def changed (n : Network) : Except Rejection Network → Option Rejection × Network
  | .ok m => (none, m)
  | .error r => (some r, n)

theorem setVlanOf_eq_settle {vlan : Value} {id : Int} (name : Value)
    (whole : vlan.whole? = some id) :
    n.setVlanOf uid vlan name = n.settle ((n.setVlan uid id name).map n.changed) := by
  have int : ∀ id, n.setVlanOf uid (.int id) name =
      n.settle ((n.setVlan uid id name).map n.changed) := by
    intro id
    rw [setVlanOf_int]
    generalize n.setVlan uid id name = x
    rcases x with e | r | m
    · rfl
    · rfl
    · rfl
  cases vlan with
  | int v =>
    obtain rfl := Option.some.inj whole
    exact int v
  | bool b =>
    obtain rfl := Option.some.inj whole
    exact int _
  | _ => cases whole

/-- A VLAN that is asked for by a whole number: once it is known to be in range, all writes go
through. -/
theorem run_setVlan_of_whole {vlan : Value} {id : Int} (name : Value)
    (whole : vlan.whole? = some id) :
    (Stepwise.setVlan uid vlan name).run n = n.setVlanOf uid vlan name := by
  have range : Stepwise.outOfRange vlan = .ok (id < minVlan || maxVlan < id) := by
    unfold Stepwise.outOfRange
    rw [whole]
  obtain ⟨key, usual⟩ := key_of_whole whole
  rw [setVlanOf_eq_settle name whole, setVlan, map_bind]
  refine run_device_bind_settle uid fun d hd => ?_
  rw [range]
  split
  · rfl
  · rw [run_lift_bind rfl]
    by_cases out : (decide (id < minVlan) || decide (maxVlan < id)) = true
    · rw [if_pos out, if_pos out]
      rfl
    · obtain ⟨d₁, first, -⟩ := device?_alterVlans (·.putNew 1 (.text firstVlanName)) hd
      obtain ⟨d₂, added, -⟩ :=
        device?_alterVlans (·.putNew id (.text (defaultVlanName id))) first
      rw [if_neg out, if_neg out, run_writeVlans_bind, run_lift_bind key, usual,
        run_bind_of_ok (run_addVlan first _), run_bind_of_ok (run_nameVlan added name),
        alterVlans_alterVlans, alterVlans_alterVlans, update_eq_ok hd]
      rfl

/-- A VLAN that is asked for by a double: it has to be there, and VLAN 1 is put in before that is
noticed. -/
theorem run_setVlan_float (number : Double) (name : Value) :
    (Stepwise.setVlan uid (.float number) name).run n = n.setVlanAt uid number name := by
  unfold setVlanAt Stepwise.setVlan
  cases found : n.device uid with
  | error e => exact run_bind_of_error (congrArg (·, n) found)
  | ok d =>
    have hd := device_eq_ok_iff.1 found
    rw [run_device_bind hd]
    dsimp only
    split
    · rfl
    · have range : Stepwise.outOfRange (.float number) = .ok (isOutOfRange number) := rfl
      rw [run_lift_bind range]
      split
      · rfl
      · obtain ⟨d₁, first, vlans⟩ := device?_alterVlans (·.putNew 1 (.text firstVlanName)) hd
        rw [run_writeVlans_bind]
        cases whole : number.toInt? with
        | none =>
          have key : (Value.float number).intKey = .ok none := by
            simp [Value.intKey, Value.plain, Value.plainNumber, whole]
          rw [run_lift_bind key]
          rfl
        | some id =>
          have key : (Value.float number).intKey = .ok (some id) := by
            simp [Value.intKey, Value.plain, Value.plainNumber, whole]
          rw [run_lift_bind key]
          cases there : d.fullVlans.contains id with
          | true =>
            have same : n.alterVlans uid (writeVlan id name) =
                (n.alterVlans uid (·.putNew 1 (.text firstVlanName))).alterVlans uid
                  (fun t => if name.given then t.put id name else t) := by
              rw [alterVlans_alterVlans]
              refine alterVlans_congr hd ?_
              have stays : d.fullVlans.putNew id (.text (defaultVlanName id)) = d.fullVlans := by
                rw [Index.putNew, if_pos there]
              change (if name.given then (d.fullVlans.putNew id _).put id name
                else d.fullVlans.putNew id _) = _
              rw [stays]
              rfl
            rw [Option.filter_some_pos there,
              run_bind_of_ok (run_addVlan_of_contains first (by rw [vlans]; exact there)),
              run_bind_of_ok (run_nameVlan first name), ← same]
            rfl
          | false =>
            rw [Option.filter_some_neg (by simp [there])]
            exact run_bind_of_error (run_addVlan_of_error first (by rw [vlans]; exact there))

/-- VLANs may be asked for by any value, step by step as well. -/
theorem run_setVlan (n : Network) (uid : String) (vlan name : Value) :
    (Stepwise.setVlan uid vlan name).run n = n.setVlanOf uid vlan name := by
  cases vlan with
  | int id => exact run_setVlan_of_whole name rfl
  | bool b => exact run_setVlan_of_whole name rfl
  | float number => exact run_setVlan_float number name
  | _ =>
    unfold Stepwise.setVlan setVlanOf
    dsimp only
    cases found : n.device uid with
    | error e => exact run_bind_of_error (congrArg (·, n) found)
    | ok d =>
      rw [run_device_bind (device_eq_ok_iff.1 found)]
      dsimp only
      cases d.supportsVlans with
      | true => rfl
      | false => rfl

theorem settle_changed (n : Network) (x : Except Fault (Except Rejection Network)) :
    n.settle (x.map n.changed) = (x.map fun y => (n.changed y).1, n.afterChange x) := by
  rcases x with e | r | m
  · rfl
  · rfl
  · rfl

theorem run_removeVlan (n : Network) (uid : String) (vlan : Value) :
    (Stepwise.removeVlan uid vlan).run n =
      n.settle ((n.removeVlanOf uid vlan).map n.changed) := by
  rw [removeVlanOf, map_bind]
  refine run_device_bind_settle uid fun d hd => ?_
  split
  · rfl
  · next supports =>
    rcases vlan.intKey with e | id | id
    · dsimp only
      split
      · rfl
      · rfl
    · rfl
    · have looked : n.device uid = .ok d := device_eq_ok_iff.2 hd
      dsimp only
      rw [removeVlan, looked]
      change _ = n.settle (Except.map n.changed (ite _ _ _))
      rw [if_neg supports]
      split
      · rfl
      · rw [run_writeVlans_bind, update_eq_ok hd]
        rfl

end Network

end NetLab
