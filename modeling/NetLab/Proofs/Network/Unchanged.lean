import NetLab.Proofs.Network.StepwiseVlan

set_option autoImplicit false

/-!
# Operations that fail

An operation that ends in a fault or is rejected leaves devices, links and the number of the next
link as they were (`Network.unchanged_of_failed`).  This is shown for the operations as they are
carried out write by write, so no default that is put in on the way is left behind and no number is
used up.
-/

namespace NetLab

open Reading

namespace Network

open Stepwise

variable {n : Network} {uid : String}

/-! ## Outcomes -/

/-- What comes of an operation: a fault, or why it was rejected, if it was. -/
def outcome (n : Network) : Operation → Except Fault (Option Rejection)
  | .reset | .removeDevice _ => .ok none
  | .addDevice e => (n.addDevice e).map fun _ => none
  | .addLink a b id => (n.addLink a b id).map fun _ => none
  | .removeLink id => (n.removeLink id).map fun _ => none
  | .ensureInterface uid name => (n.ensureInterface uid name).map fun _ => none
  | .editInterface uid name f => (n.editInterface uid name f).map fun _ => none
  | .editLine uid line f => (n.editLine uid line f).map fun _ => none
  | .setVlan uid vlan name => (n.setVlanOf uid vlan name).1
  | .removeVlan uid vlan => (n.removeVlanOf uid vlan).map fun x => (n.changed x).1
  | .setHostname uid name => (n.setHostname uid name).map fun _ => none
  | .setRouting uid enabled => (n.setRouting uid enabled).map fun _ => none
  | .setAddress uid ip => (n.setAddress uid ip).map fun _ => none
  | .setDisplayVlan uid vlan => (n.setDisplayVlan uid vlan).map fun _ => none
  | .setStatus uid status => (n.setStatus uid status).map fun _ => none
  | .setDomainName uid name => (n.setDomainName uid name).map fun _ => none
  | .importDevice doc => (n.importDevice doc).1.map fun _ => none
  | .importDocument doc => (n.importDocument doc).1.map fun _ => none

theorem run_carryOut {α : Type} (r : Reading Network α) (n : Network) :
    (carryOut r).run n = ((r.run n).1.map fun _ => none, (r.run n).2) := by
  unfold carryOut
  rcases h : r.run n with ⟨x, m⟩
  cases x with
  | error e => exact run_bind_of_error h
  | ok a => exact run_bind_of_ok h

theorem run_carryOut_settle {α : Type} {r : Reading Network α} {x : Except Fault (α × Network)}
    (h : r.run n = n.settle x) :
    (carryOut r).run n = (x.map fun _ => none, n.after (x.map Prod.snd)) := by
  rw [run_carryOut, h]
  cases x with
  | error e => rfl
  | ok a => rfl

theorem run_carryOut_change {r : Reading Network Unit} {x : Except Fault Network}
    (h : r.run n = n.settle (x.map fun m => ((), m))) :
    (carryOut r).run n = (x.map fun _ => none, n.after x) := by
  rw [run_carryOut_settle h]
  cases x with
  | error e => rfl
  | ok m => rfl

/-- The steps of an operation come to what the operation makes of the network. -/
theorem run_steps (n : Network) (op : Operation) :
    (Stepwise.steps op).run n = (n.outcome op, n.apply op) := by
  cases op with
  | reset => rfl
  | addDevice e => exact run_carryOut_settle (run_addDevice n e)
  | removeDevice uid =>
    change (carryOut _).run n = _
    rw [run_carryOut, run_removeDevice]
    rfl
  | addLink a b id => exact run_carryOut_settle (run_addLink n a b id)
  | removeLink id =>
    refine run_carryOut_change ?_
    unfold Stepwise.removeLink
    rw [run_get_bind]
    cases n.removeLink id with
    | error e => rfl
    | ok m => rfl
  | ensureInterface uid name => exact run_carryOut_settle (run_ensureInterface n uid name)
  | editInterface uid name f => exact run_carryOut_settle (run_editInterface n uid name f)
  | editLine uid line f => exact run_carryOut_settle (run_editLine n uid line f)
  | setVlan uid vlan name => exact run_setVlan n uid vlan name
  | removeVlan uid vlan => exact (run_removeVlan n uid vlan).trans (settle_changed n _)
  | setHostname uid name => exact run_carryOut_change (run_setHostname n uid name)
  | setRouting uid enabled => exact run_carryOut_change (run_edit n uid _)
  | setAddress uid ip => exact run_carryOut_change (run_edit n uid _)
  | setDisplayVlan uid vlan => exact run_carryOut_change (run_edit n uid _)
  | setStatus uid status => exact run_carryOut_change (run_setStatus n uid status)
  | setDomainName uid name => exact run_carryOut_change (run_edit n uid _)
  | importDevice doc =>
    cases doc with
    | object fs => exact run_carryOut (readDevice fs) n
    | _ => rfl
  | importDocument doc => exact run_carryOut (read doc) n

/-! ## Operations that fail -/

namespace Operation

/-- The operation reads a document. -/
def imports : Operation → Bool
  | .importDevice _ | .importDocument _ => true
  | _ => false

/-- The operation asks for a VLAN, if for any, by a whole number. -/
def asksWhole : Operation → Bool
  | .setVlan _ vlan _ => vlan.whole?.isSome
  | _ => true

end Operation

theorem after_of_failed {x : Except Fault Network}
    (failed : x.map (fun _ => (none : Option Rejection)) ≠ .ok none) : n.after x = n := by
  cases x with
  | error e => rfl
  | ok m => exact absurd rfl failed

theorem after_map_of_failed {α : Type} {x : Except Fault (α × Network)}
    (failed : x.map (fun _ => (none : Option Rejection)) ≠ .ok none) :
    n.after (x.map Prod.snd) = n := by
  cases x with
  | error e => rfl
  | ok a => exact absurd rfl failed

theorem afterChange_of_failed {x : Except Fault (Except Rejection Network)}
    (failed : x.map (fun y => (n.changed y).1) ≠ .ok none) : n.afterChange x = n := by
  rcases x with e | r | m
  · rfl
  · rfl
  · exact absurd rfl failed

/-- A double that creates or renames no VLAN leaves a network with VLAN 1 in its tables. -/
theorem setVlanAt_of_failed {number : Double} {name : Value}
    (keeps : ∀ d, n.device? uid = some d → d.vlans.contains 1 = true)
    (failed : (n.setVlanAt uid number name).1 ≠ .ok none) :
    (n.setVlanAt uid number name).2 = n := by
  unfold setVlanAt at failed ⊢
  cases found : n.device uid with
  | error e => rfl
  | ok d =>
    have hd := device_eq_ok_iff.1 found
    have full : n.alterVlans uid (·.putNew 1 (.text firstVlanName)) = n :=
      alterVlans_of_eq hd (by rw [Index.putNew, if_pos (keeps d hd)])
    rw [found] at failed
    dsimp only at failed ⊢
    split
    · rfl
    · next supports =>
      rw [if_neg supports] at failed
      split
      · rfl
      · next inRange =>
        rw [if_neg inRange] at failed
        split
        · next there =>
          rw [there] at failed
          exact absurd rfl failed
        · exact full

/-- A VLAN that is not created or renamed leaves the network, unless a double asks for it on a
device that has lost VLAN 1. -/
theorem setVlanOf_of_failed {vlan name : Value}
    (asked : vlan.whole?.isSome = true ∨
      ∀ d, n.device? uid = some d → d.vlans.contains 1 = true)
    (failed : (n.setVlanOf uid vlan name).1 ≠ .ok none) : (n.setVlanOf uid vlan name).2 = n := by
  cases whole : vlan.whole? with
  | some id =>
    rw [setVlanOf_eq_settle name whole, settle_changed] at failed ⊢
    exact afterChange_of_failed failed
  | none =>
    have keeps : ∀ d, n.device? uid = some d → d.vlans.contains 1 = true := by
      rcases asked with asked | keeps
      · rw [whole] at asked
        cases asked
      · exact keeps
    cases vlan with
    | int v => cases whole
    | bool b => cases whole
    | float number => exact setVlanAt_of_failed keeps failed
    | _ =>
      unfold setVlanOf
      dsimp only
      split
      · rfl
      · rfl

/-- Carried out write by write, an operation comes to what it makes of the whole network; and if it
ends in a fault or is rejected, devices, links and the number of the next link are as before.  Only
reading a document may stop half-way.  The id of a VLAN is a whole number; where operations made the
network, so that VLAN 1 is in every table, it may be anything. -/
theorem unchanged_of_failed (n : Network) (op : Operation) (imports : op.imports = false)
    (asked : op.asksWhole = true ∨ ∃ ops, n = build ops) :
    (Stepwise.steps op).run n = (n.outcome op, n.apply op) ∧
      (n.outcome op ≠ .ok none → n.apply op = n) := by
  refine ⟨run_steps n op, fun failed => ?_⟩
  cases op with
  | reset => exact absurd rfl failed
  | addDevice e => exact after_map_of_failed failed
  | removeDevice uid => exact absurd rfl failed
  | addLink a b id => exact after_map_of_failed failed
  | removeLink id => exact after_of_failed failed
  | ensureInterface uid name => exact after_map_of_failed failed
  | editInterface uid name f => exact after_map_of_failed failed
  | editLine uid line f => exact after_map_of_failed failed
  | setVlan uid vlan name =>
    refine setVlanOf_of_failed (asked.imp_right ?_) failed
    rintro ⟨ops, rfl⟩ d hd
    exact (proper_build ops _ d hd).firstVlan
  | removeVlan uid vlan => exact afterChange_of_failed failed
  | setHostname uid name => exact after_of_failed failed
  | setRouting uid enabled => exact after_of_failed failed
  | setAddress uid ip => exact after_of_failed failed
  | setDisplayVlan uid vlan => exact after_of_failed failed
  | setStatus uid status => exact after_of_failed failed
  | setDomainName uid name => exact after_of_failed failed
  | importDevice doc => cases imports
  | importDocument doc => cases imports

/-- A link whose id is taken uses up no number, and a VLAN that is out of range is not put in. -/
theorem unchanged_of_failed_duplicate :
    let n := build [
      .addDevice { uid := "S1", kind := .text "SWITCH_L2" },
      .addDevice { uid := "P1", kind := .text "PC" },
      .addLink "S1" "P1" .null]
    let link : Operation := .addLink "S1" " P1" (.text "L1")
    let vlan : Operation := .setVlan "S1" (.int 5000) (.text "LAB")
    (Stepwise.steps link).run n = (.error (.duplicateLink "L1"), n) ∧
      (Stepwise.steps vlan).run n = (.ok (some .outOfRange), n) ∧
      ((n.apply link).takeLinkId []).1 = "L2" := by
  intro n link vlan
  have taken : n.outcome link = .error (.duplicateLink "L1") := by decide +kernel
  have rejected : n.outcome vlan = .ok (some .outOfRange) := by decide +kernel
  obtain ⟨linkRun, sameLink⟩ := unchanged_of_failed n link rfl (.inl rfl)
  obtain ⟨vlanRun, sameVlan⟩ := unchanged_of_failed n vlan rfl (.inl rfl)
  have link_stays : n.apply link = n := sameLink (by rw [taken]; exact nofun)
  have vlan_stays : n.apply vlan = n := sameVlan (by rw [rejected]; exact nofun)
  rw [linkRun, vlanRun, taken, rejected, link_stays, vlan_stays]
  exact ⟨rfl, rfl, by decide +kernel⟩

end Network

end NetLab
