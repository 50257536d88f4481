import NetLab.Mission.Grade
import NetLab.Proofs.Engine.InUse
import NetLab.Proofs.Mission.Grows
import NetLab.Proofs.Network.Numbering

set_option autoImplicit false

/-!
# Building on

What is done to a network mostly adds to it: devices, links, interfaces and VLANs come in, and
settings are made at which missions do not look (`Network.Operation.Builds`).  The lines of
sessions do the same, but for those that delete a VLAN or set an access VLAN, which may tag a host
anew.  So a network only grows as it is worked on (`Engine.grows_live`), and a step of a mission
that passes once keeps passing (`Mission.passes_live`).
-/

namespace NetLab

open Network (Operation)

/-! ## Operations that build -/

/-- The operation adds to the network, or configures a device in a way at which missions do not
look.  The address of a device that is added is a text, where one is given: no test can look at
anything else. -/
def Network.Operation.Builds : Operation → Prop
  | .addDevice e => e.address.given = true → ∃ s, e.address = .text s
  | .addLink .. | .ensureInterface .. | .editInterface .. | .editLine .. | .setVlan ..
  | .setHostname .. | .setRouting .. | .setStatus .. | .setDomainName .. => True
  | _ => False

theorem contains_writeVlan_of_contains {t : Index Int Value} {v : Int} (h : t.contains v = true)
    (vlan : Int) (name : Value) : (Network.writeVlan vlan name t).contains v = true := by
  have whole : ((t.putNew 1 (.text firstVlanName)).putNew vlan
      (.text (defaultVlanName vlan))).contains v = true :=
    Index.contains_putNew (Index.contains_putNew h)
  rw [Network.writeVlan]
  split
  · exact Index.contains_put whole
  · exact whole

namespace Network

variable {n m : Network} {uid : String}

theorem Grows.writeVlan (n : Network) (uid : String) (vlan : Int) (name : Value) :
    n.Grows (n.alter uid fun d => { d with vlans := Network.writeVlan vlan name d.vlans }) :=
  Grows.alter fun _ _ => ⟨rfl, rfl, rfl, fun _ hv => contains_writeVlan_of_contains hv vlan name⟩

/-- Whatever value a VLAN is asked for by, no VLAN goes away. -/
theorem grows_setVlanOf (n : Network) (uid : String) (vlan name : Value) :
    n.Grows (n.setVlanOf uid vlan name).2 := by
  have whole : ∀ v : Int, n.Grows (n.setVlanOf uid (.int v) name).2 := by
    intro v
    rw [setVlanOf_int]
    split
    · next h =>
      obtain ⟨_, _, _, _, _, rfl⟩ := setVlan_eq_ok h
      exact .writeVlan n uid v name
    · exact .refl n
    · exact .refl n
  cases vlan with
  | int v => exact whole v
  | bool b => exact whole (if b then 1 else 0)
  | float number =>
    change n.Grows (n.setVlanAt uid number name).2
    unfold setVlanAt
    split
    · exact .refl n
    · split
      · exact .refl n
      · split
        · exact .refl n
        · split
          · exact .writeVlan n uid _ name
          · exact .alter fun _ _ => ⟨rfl, rfl, rfl, fun _ hv => Index.contains_putNew hv⟩
  | _ =>
    unfold setVlanOf
    dsimp only
    split
    · exact .refl n
    · exact .refl n

theorem grows_addDevice {e : Entry} {d : Device} (h : n.addDevice e = .ok (d, m))
    (address : e.address.given = true → ∃ s, e.address = .text s) : n.Grows m := by
  obtain ⟨-, rfl⟩ | ⟨new, rfl, kind, status, -, -, -, rfl⟩ := addDevice_cases h
  · exact .refl _
  · exact .putDevice new address

theorem grows_addLink {a b : String} {id given : Value} (h : n.addLink a b given = .ok (id, m)) :
    n.Grows m := by
  obtain ⟨-, -, ⟨-, rfl⟩ | ⟨-, k, key, free, rfl⟩⟩ := addLink_eq_ok h
  · have free := (n.takeLinkId_free []).1
    have counted : n.Grows (n.takeLinkId []).2 :=
      ⟨fun _ d hd => ⟨d, hd, .refl d⟩, fun _ _ h => h, fun hn => hn⟩
    exact counted.trans (.putLink free)
  · exact .putLink (by rw [Value.plain_of_key key]; exact free)

/-- A network grows by an operation that builds. -/
theorem grows_apply {op : Operation} (builds : op.Builds) : n.Grows (n.apply op) := by
  -- most settings are neither addresses nor tags nor VLANs
  have setting : ∀ (u : String) (f : Device → Device), (∀ d : Device, d.Grows (f d)) →
      n.Grows (n.after (n.update u f)) := by
    intro u f hf
    refine after_induction (.refl n) fun m hm => ?_
    obtain ⟨-, rfl⟩ := update_eq_ok_iff.1 hm
    exact .alter fun d _ => hf d
  cases op with
  | addDevice e => exact after_map_induction (.refl n) fun d m hm => grows_addDevice hm builds
  | addLink a b id => exact after_map_induction (.refl n) fun r m hm => grows_addLink hm
  | ensureInterface u name =>
    refine after_map_induction (.refl n) fun i m hm => ?_
    obtain ⟨d, k, -, -, ⟨-, rfl⟩ | ⟨-, -, rfl⟩⟩ := ensureInterface_eq_ok hm
    · exact .refl _
    · exact .alter fun _ _ => ⟨rfl, rfl, rfl, fun _ h => h⟩
  | editInterface u name f =>
    refine after_map_induction (.refl n) fun i m hm => ?_
    obtain ⟨d, k, old, -, -, -, -, rfl⟩ := editInterface_eq_ok hm
    exact .alter fun _ _ => ⟨rfl, rfl, rfl, fun _ h => h⟩
  | editLine u line f =>
    refine after_map_induction (.refl n) fun l m hm => ?_
    obtain ⟨_, _, _, _, _, rfl⟩ := editLine_eq_ok hm
    exact .alter fun _ _ => ⟨rfl, rfl, rfl, fun _ h => h⟩
  | setVlan u vlan name => exact grows_setVlanOf n u vlan name
  | setStatus u status =>
    refine after_induction (.refl n) fun m hm => ?_
    obtain ⟨x, -, hm⟩ := bind_eq_ok_iff.1 hm
    obtain ⟨-, rfl⟩ := update_eq_ok_iff.1 hm
    exact .alter fun _ _ => ⟨rfl, rfl, rfl, fun _ h => h⟩
  | setHostname u name => exact setting u _ fun _ => ⟨rfl, rfl, rfl, fun _ h => h⟩
  | setRouting u enabled => exact setting u _ fun _ => ⟨rfl, rfl, rfl, fun _ h => h⟩
  | setDomainName u name => exact setting u _ fun _ => ⟨rfl, rfl, rfl, fun _ h => h⟩
  | reset => cases builds
  | removeDevice _ => cases builds
  | removeLink _ => cases builds
  | removeVlan _ _ => cases builds
  | setAddress _ _ => cases builds
  | setDisplayVlan _ _ => cases builds
  | importDevice _ => cases builds
  | importDocument _ => cases builds

end Network

/-! ## Lines and runs -/

/-- What an action makes builds, unless the action deletes a VLAN or sets an access VLAN. -/
theorem Action.Makes.builds {uid : String} {p : Place} {args : List String} {a : Action}
    {op : Operation} (h : a.Makes uid p args op) (noVlan : a ≠ .noVlan)
    (accessVlan : a ≠ .accessVlan) : op.Builds := by
  cases h with
  | noVlan _ => exact absurd rfl noVlan
  | tag _ _ => exact absurd rfl accessVlan
  | _ => trivial

namespace Engine

variable {e : Engine} {id : Nat} {line : String}

/-- What a line makes, the action makes to which it comes. -/
theorem LineMakes.exists_action {op : Operation} (h : e.LineMakes id line op) :
    ∃ a uid p args, e.action? id line = some a ∧ a.Makes uid p args op := by
  obtain ⟨s, taken, a, args, means, makes⟩ := h
  have notBlank : Text.trim line ≠ "" := by
    intro blank
    have none : Text.words "" = [] := rfl
    rw [blank, none, Command.meaning] at means
    rcases means with h | h
    · cases h
    · cases h
  refine ⟨a, s.uid, s.place, args, ?_, makes⟩
  rw [action?, meaning?, if_neg notBlank, taken, Option.map_some, Option.bind_some]
  rcases means with h | h
  · rw [h]
    rfl
  · rw [h]
    rfl

/-- The event builds: what is done to the network by itself does, and a line does not come to the
deletion of a VLAN, nor to an access VLAN. -/
def Event.Builds (e : Engine) : Event → Prop
  | .operate op => op.Builds
  | .act (.line id line) =>
    e.action? id line ≠ some .noVlan ∧ e.action? id line ≠ some .accessVlan
  | .act _ => True

theorem Event.builds_of_makes {ev : Event} (h : ev.Builds e) {op : Operation}
    (makes : ev.Makes e op) : op.Builds := by
  cases ev with
  | operate made =>
    obtain rfl : op = made := makes
    exact h
  | act a =>
    cases a with
    | line id text =>
      obtain ⟨noVlan, accessVlan⟩ := h
      obtain ⟨a, uid, p, args, comes, makes⟩ := LineMakes.exists_action makes
      rw [comes] at noVlan accessVlan
      exact makes.builds (fun same => noVlan (congrArg some same))
        fun same => accessVlan (congrArg some same)
    | _ => exact makes.elim

/-- Whatever happens next builds, event by event. -/
def Builds (e : Engine) : List Event → Prop
  | [] => True
  | ev :: events => ev.Builds e ∧ (e.happen ev).Builds events

theorem grows_happen {ev : Event} (h : ev.Builds e) : e.network.Grows (e.happen ev).network :=
  (made_happen e ev).induction (.refl _) fun _ _ makes grows =>
    grows.trans (Network.grows_apply (Event.builds_of_makes h makes))

/-- A network grows by whatever builds. -/
theorem grows_live {events : List Event} (h : e.Builds events) :
    e.network.Grows (e.live events).network := by
  induction events generalizing e with
  | nil => exact .refl _
  | cons ev events ih =>
    obtain ⟨first, rest⟩ := h
    exact (grows_happen first).trans (ih rest)

end Engine

namespace Mission

variable {mission : Mission}

/-- Two networks that hold the same, in whatever orders, get the same grades. -/
theorem verify_reorders (hm : mission ∈ Mission.all) {n m : Network} (h : n.Reorders m)
    (step : Int) : mission.verify m step = mission.verify n step := by
  rw [verify, verify]
  cases found : mission.step? step with
  | none => rfl
  | some p =>
    obtain ⟨k, s⟩ := p
    have listed : s.check.Listed := by
      rw [step?] at found
      split at found
      · cases found
      · obtain ⟨t, ht, heq⟩ := Option.map_eq_some_iff.1 found
        obtain ⟨-, rfl⟩ := Prod.mk.inj heq
        exact listed_of_mem hm (List.mem_of_getElem? ht)
    dsimp only
    rw [listed.congr h.grows h.symm.grows]

/-- A step of a mission that passes keeps passing as the network is built on, by calls and by lines
of sessions; and what order devices and links came in does not matter to any grade. -/
theorem passes_live (hm : mission ∈ Mission.all) :
    (∀ s ∈ mission.steps, ∀ (e : Engine) (events : List Engine.Event),
      s.check e.network = .ok true → e.Builds events →
        s.check (e.live events).network = .ok true) ∧
      ∀ n m : Network, n.Reorders m → ∀ step, mission.verify m step = mission.verify n step := by
  refine ⟨fun s hs e events passes builds => ?_, fun n m reorders => verify_reorders hm reorders⟩
  exact (listed_of_mem hm hs).grows (Engine.grows_live builds) passes

/-- Devices and VLANs that come in, by calls and by lines, leave the first step passed; and the
devices might have come in another order. -/
theorem passes_live_devices :
    let n := Network.build [.addDevice { uid := "S1", kind := .text "SWITCH_L2" },
      .addDevice { uid := "P1", kind := .text "PC" },
      .addDevice { uid := "P2", kind := .text "PC" }]
    let m := Network.build [.addDevice { uid := "P2", kind := .text "PC" },
      .addDevice { uid := "P1", kind := .text "PC" },
      .addDevice { uid := "S1", kind := .text "SWITCH_L2" }]
    let e : Engine := { network := n, bootDelay := Engine.usualBootDelay }
    let events : List Engine.Event := [.act (.opens "S1"), .act (.line 0 "enable"),
      .act (.line 0 "conf t"), .act (.line 0 "vlan 10"), .operate (.addLink "S1" "P1" .null),
      .operate (.addDevice { uid := "P3", kind := .text "PC", address := .text "10.0.0.3" })]
    (departmentSeparation ∈ Mission.all ∧ e.Builds events ∧ n.Reorders m) ∧
      Check.separationDevices (e.live events).network = .ok true ∧
      ∀ step, departmentSeparation.verify m step = departmentSeparation.verify n step := by
  intro n m e events
  have listed : departmentSeparation ∈ Mission.all :=
    List.mem_cons_of_mem _ (List.mem_cons_self ..)
  have builds : e.Builds events :=
    ⟨trivial, ⟨by decide +kernel, by decide +kernel⟩, ⟨by decide +kernel, by decide +kernel⟩,
      ⟨by decide +kernel, by decide +kernel⟩, trivial, fun _ => ⟨"10.0.0.3", rfl⟩, trivial⟩
  have reorders : n.Reorders m := ⟨by decide +kernel, by decide +kernel⟩
  obtain ⟨passes, same⟩ := passes_live listed
  exact ⟨⟨listed, builds, reorders⟩,
    passes _ (List.mem_cons_self ..) e events (by decide +kernel) builds, same n m reorders⟩

end Mission

end NetLab
