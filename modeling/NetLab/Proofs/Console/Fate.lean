import NetLab.Proofs.Console.Meaning
import NetLab.Proofs.Route.Fate

set_option autoImplicit false

/-!
# Commands leave what packets meet

No action touches a link, or the id, the state, the kind or the address of a device, and only
naming a device touches its label.  There is one lemma for each way in which an action changes the
network, and the network may be any one: nothing is asked of the session either.
-/

namespace NetLab

open Route

variable {n m : Network} {uid : String}

/-! ## Operations -/

namespace Network

theorem alike_ensureInterface {name : Value} {i : Interface}
    (h : n.ensureInterface uid name = .ok (i, m)) : n.Alike Host.ofDevice m := by
  obtain ⟨_, _, _, _, ⟨_, rfl⟩ | ⟨_, _, rfl⟩⟩ := ensureInterface_eq_ok h
  · exact .refl _
  · exact alike_alter fun _ => rfl

theorem alike_editInterface {name : Value} {f : Interface → Interface} {i : Interface}
    (h : n.editInterface uid name f = .ok (i, m)) : n.Alike Host.ofDevice m := by
  obtain ⟨_, _, _, _, _, _, _, rfl⟩ := editInterface_eq_ok h
  exact alike_alter fun _ => rfl

theorem alike_editLine {line : Value} {f : Line → Line} {l : Line}
    (h : n.editLine uid line f = .ok (l, m)) : n.Alike Host.ofDevice m := by
  obtain ⟨_, _, _, _, _, rfl⟩ := editLine_eq_ok h
  exact alike_alter fun _ => rfl

theorem alike_setVlan {vlan : Int} {name : Value} (h : n.setVlan uid vlan name = .ok (.ok m)) :
    n.Alike Host.ofDevice m := by
  obtain ⟨_, _, _, _, _, rfl⟩ := setVlan_eq_ok h
  exact alike_alter fun _ => rfl

theorem alike_removeVlan {vlan : Int} (h : n.removeVlan uid vlan = .ok (.ok m)) :
    n.Alike Host.ofDevice m := by
  obtain ⟨_, _, _, _, rfl⟩ := removeVlan_eq_ok h
  exact alike_alter fun _ => rfl

theorem alike_setVlanOf (n : Network) (uid : String) (vlan name : Value) :
    n.Alike Host.ofDevice (n.setVlanOf uid vlan name).2 := by
  obtain h | ⟨table, h⟩ := setVlanOf_cases n uid vlan name
  · rw [h]
    exact .refl _
  · rw [h]
    exact alike_alter fun _ => rfl

end Network

/-! ## Ways to carry out a command -/

/-- The outcome leaves a network in which packets meet what they meet in this one. -/
def Outcome.Leaves (n : Network) (o : Outcome) : Prop := n.Alike Host.ofDevice o.console.network

namespace Console

variable {c : Console}

theorem attempt_leaves {α : Type} {x : Except Fault α} {next : α → Outcome}
    (hc : n.Alike Host.ofDevice c.network) (hnext : ∀ a, x = .ok a → (next a).Leaves n) :
    (c.attempt x next).Leaves n := by
  cases x with
  | ok a => exact hnext a rfl
  | error f => exact hc

theorem configure_leaves {x : Except Fault Network}
    (hx : ∀ m, x = .ok m → c.network.Alike Host.ofDevice m) : (c.configure x).Leaves c.network :=
  attempt_leaves (.refl _) hx

theorem changeVlans_leaves {x : Except Fault (Except Rejection Network)} {next : Console → Outcome}
    (hnext : ∀ m, x = .ok (.ok m) → (next (c.withNetwork m)).Leaves c.network) :
    (c.changeVlans x next).Leaves c.network := by
  refine attempt_leaves (.refl _) fun r hr => ?_
  cases r with
  | ok m => exact hnext m hr
  | error r => exact .refl _

theorem editSelected_leaves {f : Interface → Interface} {next : Interface → Console → Outcome}
    (hnext : ∀ i m, c.network.Alike Host.ofDevice m → (next i (c.withNetwork m)).Leaves c.network) :
    (c.editSelected f next).Leaves c.network := by
  rw [editSelected]
  split
  · exact .refl _
  · exact attempt_leaves (.refl _) fun p hp => hnext p.1 p.2 (Network.alike_editInterface hp)

theorem setOnSelected_leaves {f : Interface → Interface} :
    (c.setOnSelected f).Leaves c.network :=
  editSelected_leaves fun _ _ h => h

theorem editSelectedLine_leaves {f : Line → Line} : (c.editSelectedLine f).Leaves c.network := by
  rw [editSelectedLine]
  split
  · exact .refl _
  · exact attempt_leaves (.refl _) fun p hp => Network.alike_editLine hp

theorem ping_leaves (ip : String) : (c.ping ip).Leaves c.network := by
  rw [ping]
  split
  · exact .refl _
  · refine attempt_leaves (.refl _) fun v _ => ?_
    dsimp only
    split
    · exact .refl _
    · exact .refl _

theorem showDevice_leaves {view : Device → Except Fault (List String)} :
    (c.showDevice view).Leaves c.network :=
  attempt_leaves (.refl _) fun _ _ => attempt_leaves (.refl _) fun _ _ => .refl _

theorem selectVlan_leaves {word : String} : (c.selectVlan word).Leaves c.network := by
  refine attempt_leaves (.refl _) fun d _ => ?_
  split
  · exact .refl _
  · split
    · exact .refl _
    · exact changeVlans_leaves fun m h => Network.alike_setVlan h

theorem deleteVlan_leaves {word : String} : (c.deleteVlan word).Leaves c.network := by
  rw [deleteVlan]
  split
  · exact .refl _
  · exact changeVlans_leaves fun m h => Network.alike_removeVlan h

theorem selectLine_leaves {word : String} : (c.selectLine word).Leaves c.network := by
  rw [selectLine]
  split
  · exact .refl _
  · exact .refl _

theorem setShutdown_leaves {down : Bool} : (c.setShutdown down).Leaves c.network :=
  editSelected_leaves fun _ _ h => h

theorem setPortMode_leaves {word : String} : (c.setPortMode word).Leaves c.network := by
  rw [setPortMode]
  split
  · exact .refl _
  · exact setOnSelected_leaves

/-- The VLAN tag of an end host is nothing that a packet meets. -/
theorem tagNeighbour_leaves {vlan : Int} (h : n.Alike Host.ofDevice c.network) :
    (c.tagNeighbour vlan).Leaves n := by
  refine attempt_leaves h fun found _ => ?_
  cases found with
  | none => exact h
  | some link =>
    dsimp only
    split
    · exact h
    · split
      · exact attempt_leaves h fun m hm => h.trans (Network.alike_update hm fun _ => rfl)
      · exact h

theorem setAccessVlan_leaves {word : String} : (c.setAccessVlan word).Leaves c.network := by
  rw [setAccessVlan]
  split
  · exact .refl _
  · exact editSelected_leaves fun _ _ h => tagNeighbour_leaves h

theorem setNativeVlan_leaves {word : String} : (c.setNativeVlan word).Leaves c.network := by
  rw [setNativeVlan]
  split
  · exact .refl _
  · exact setOnSelected_leaves

theorem setInterfaceAddress_leaves {args : List String} :
    (c.setInterfaceAddress args).Leaves c.network := by
  unfold setInterfaceAddress
  split
  · exact setOnSelected_leaves
  · exact .refl _

theorem nameVlan_leaves {name : String} : (c.nameVlan name).Leaves c.network := by
  rw [nameVlan]
  split
  · exact .refl _
  · have alike := Network.alike_setVlanOf c.network c.session.uid c.session.place.vlan (.text name)
    generalize c.network.setVlanOf c.session.uid c.session.place.vlan (.text name) = result at alike
    match result, alike with
    | (.ok none, m), alike => exact alike
    | (.ok (some r), m), alike => exact alike
    | (.error f, m), alike => exact alike

theorem leave_leaves : c.leave.Leaves c.network := by
  rw [leave]
  split <;> exact .refl _

theorem finish_leaves : c.finish.Leaves c.network := by
  rw [finish]
  split <;> exact .refl _

end Console

/-! ## Actions -/

variable {t : Timing} {args : List String} {c : Console}

/-- Every action but naming a device leaves what packets meet. -/
theorem Action.run_leaves {a : Action} (ha : a ≠ .hostname) :
    (a.run t args c).Leaves c.network := by
  cases a with
  | hostname => exact absurd rfl ha
  | ping => exact Console.ping_leaves _
  | showRunningConfig => exact Console.showDevice_leaves
  | showVlan => exact Console.showDevice_leaves
  | showInterfaces => exact Console.showDevice_leaves
  | interface =>
    exact Console.attempt_leaves (.refl _) fun p hp => Network.alike_ensureInterface hp
  | vlan => exact Console.selectVlan_leaves
  | noVlan => exact Console.deleteVlan_leaves
  | routing enabled =>
    exact Console.configure_leaves fun m hm => Network.alike_update hm fun _ => rfl
  | domainName =>
    exact Console.configure_leaves fun m hm => Network.alike_update hm fun _ => rfl
  | line => exact Console.selectLine_leaves
  | shutdown down => exact Console.setShutdown_leaves
  | portMode => exact Console.setPortMode_leaves
  | accessVlan => exact Console.setAccessVlan_leaves
  | trunkAllowed => exact Console.setOnSelected_leaves
  | trunkNative => exact Console.setNativeVlan_leaves
  | address => exact Console.setInterfaceAddress_leaves
  | noAddress => exact Console.setOnSelected_leaves
  | description => exact Console.setOnSelected_leaves
  | noDescription => exact Console.setOnSelected_leaves
  | vlanName => exact Console.nameVlan_leaves
  | password => exact Console.editSelectedLine_leaves
  | noPassword => exact Console.editSelectedLine_leaves
  | login required => exact Console.editSelectedLine_leaves
  | exit => exact Console.leave_leaves
  | finish => exact Console.finish_leaves
  | _ => exact .refl _

/-- Naming a device changes its label at most. -/
theorem Action.run_hostname_faces :
    c.network.Alike Network.faceOf (Action.hostname.run t args c).console.network := by
  change c.network.Alike _ (c.nameDevice (args.headD "")).console.network
  rw [Console.nameDevice]
  cases h : c.network.setHostname c.session.uid (.text (args.headD "")) with
  | error f => exact .refl _
  | ok m => exact Network.alike_update h fun _ => rfl

namespace Console

/-- Carrying out a line leaves what packets meet, unless it names a device. -/
theorem carryOut_leaves {m : Command.Meaning} (h : m.action? ≠ some .hostname) :
    (c.carryOut t m).Leaves c.network := by
  cases m with
  | refused r => exact .refl _
  | plain a args => exact Action.run_leaves fun ha => h (congrArg some ha)
  | privileged a args =>
    have inner : (a.run t args c.privileged).Leaves c.privileged.network :=
      Action.run_leaves fun ha => h (congrArg some ha)
    rwa [carryOut, Outcome.Leaves, Outcome.network_backTo]

/-- Carrying out a line leaves what packets meet but for labels. -/
theorem carryOut_faces (m : Command.Meaning) :
    c.network.Alike Network.faceOf (c.carryOut t m).console.network := by
  by_cases h : m.action? = some .hostname
  · cases m with
    | refused r => cases h
    | plain a args =>
      obtain rfl : a = .hostname := Option.some.inj h
      exact Action.run_hostname_faces (t := t)
    | privileged a args =>
      obtain rfl : a = .hostname := Option.some.inj h
      rw [carryOut, Outcome.network_backTo]
      exact Action.run_hostname_faces (t := t) (c := c.privileged)
  · exact Network.Alike.unlabelled (carryOut_leaves h)

end Console

end NetLab
