import NetLab.Proofs.Console.Dispatch
import NetLab.Proofs.Console.Meaning
import NetLab.Proofs.Network.VlanTables

set_option autoImplicit false

/-!
# Commands are operations

Whatever a command makes of the network, operations on the network make of it (`Action.run_comes`).
`Action.Makes` lists which operations these are, for each action with its arguments, whatever the
network is and wherever the session stands.  So what every operation keeps is kept by every line,
and what a line can do to a VLAN table is read off this list.
-/

namespace NetLab

open Network (Operation)

/-! ## Which operations -/

/-- The operations by which an action may change the network, with its arguments and in a session on
a device at a place. -/
inductive Action.Makes (uid : String) (p : Place) (args : List String) : Action → Operation → Prop
    where
  | hostname : Makes uid p args .hostname (.setHostname uid (.text (args.headD "")))
  | routing (enabled : Bool) : Makes uid p args (.routing enabled) (.setRouting uid enabled)
  | domainName : Makes uid p args .domainName (.setDomainName uid (.text (args.headD "")))
  | interface : Makes uid p args .interface
      (.ensureInterface uid (.text (Port.normalize (String.join args))))
  | vlan {v : Int} (written : readVlan (args.headD "") = some v) :
      Makes uid p args .vlan (.setVlan uid (.int v) .null)
  | noVlan {v : Int} (written : readVlan (args.headD "") = some v) :
      Makes uid p args .noVlan (.removeVlan uid (.int v))
  | vlanName : Makes uid p args .vlanName (.setVlan uid p.vlan (.text (Text.unwords args)))
  | setInterface {a : Action} {f : Interface → Interface} (keeps : Interface.KeepsVlans f) :
      Makes uid p args a (.editInterface uid p.interface f)
  /-- the end host at a port takes the tag of the port -/
  | tag (host : String) (v : Int) : Makes uid p args .accessVlan (.setDisplayVlan host (.int v))
  | setLine {a : Action} (f : Line → Line) : Makes uid p args a (.editLine uid p.line f)

/-- Operations of a kind make one network of another, one after the other. -/
def Network.Made (P : Operation → Prop) (n m : Network) : Prop :=
  ∃ ops : List Operation, m = ops.foldl Network.apply n ∧ ∀ op ∈ ops, P op

namespace Network.Made

variable {P Q : Operation → Prop} {n m l : Network}

theorem refl (n : Network) : n.Made P n := ⟨[], rfl, fun _ h => nomatch h⟩

theorem single {op : Operation} (h : P op) (n : Network) : n.Made P (n.apply op) :=
  ⟨[op], rfl, fun _ hop => List.mem_singleton.1 hop ▸ h⟩

theorem trans (h : n.Made P m) (h' : m.Made P l) : n.Made P l := by
  obtain ⟨ops, rfl, hops⟩ := h
  obtain ⟨ops', rfl, hops'⟩ := h'
  exact ⟨ops ++ ops', List.foldl_append.symm, fun op hop =>
    (List.mem_append.1 hop).elim (hops op) (hops' op)⟩

theorem imp (h : n.Made P m) (hPQ : ∀ op, P op → Q op) : n.Made Q m := by
  obtain ⟨ops, made, hops⟩ := h
  exact ⟨ops, made, fun op hop => hPQ op (hops op hop)⟩

/-- What holds at the start and is kept by the operations holds in the end. -/
theorem induction {R : Network → Prop} (h : n.Made P m) (start : R n)
    (step : ∀ k op, P op → R k → R (k.apply op)) : R m := by
  obtain ⟨ops, rfl, hops⟩ := h
  exact List.foldlRecOn ops Network.apply start fun k hk op hop => step k op (hops op hop) hk

end Network.Made

/-! ## Ways to carry out a command -/

/-- The outcome leaves a network that operations of a kind made of this one. -/
def Outcome.Comes (P : Operation → Prop) (n : Network) (o : Outcome) : Prop :=
  n.Made P o.console.network

namespace Network

variable {n : Network} {uid : String}

theorem apply_setVlan_int (n : Network) (uid : String) (vlan : Int) (name : Value) :
    n.apply (.setVlan uid (.int vlan) name) = n.afterChange (n.setVlan uid vlan name) := by
  rw [apply, setVlanOf_int]
  split
  · next h => rw [h]; rfl
  · next h => rw [h]; rfl
  · next h => rw [h]; rfl

/-- A VLAN that is deleted by a whole number is one that is deleted by a value. -/
theorem removeVlanOf_int (n : Network) (uid : String) (vlan : Int) :
    n.removeVlanOf uid (.int vlan) = n.removeVlan uid vlan := by
  have key : (Value.int vlan).intKey = .ok (some vlan) := rfl
  rw [removeVlanOf, removeVlan, key]
  cases hd : n.device uid with
  | error f => rfl
  | ok d =>
    change (if !d.supportsVlans then _ else n.removeVlan uid vlan) =
      if !d.supportsVlans then _ else _
    cases hs : d.supportsVlans with
    | false => rfl
    | true =>
      rw [removeVlan, hd]
      change (if !d.supportsVlans then _ else _) = _
      rw [hs]

end Network

namespace Console

variable {c : Console} {P : Operation → Prop} {n : Network}

theorem attempt_comes {α : Type} {x : Except Fault α} {next : α → Outcome}
    (hc : n.Made P c.network) (hnext : ∀ a, x = .ok a → (next a).Comes P n) :
    (c.attempt x next).Comes P n := by
  cases x with
  | ok a => exact hnext a rfl
  | error f => exact hc

theorem configure_comes {x : Except Fault Network} {op : Operation} (hop : P op)
    (hx : c.network.apply op = c.network.after x) : (c.configure x).Comes P c.network := by
  refine attempt_comes (.refl _) fun m hm => ?_
  have made := Network.Made.single hop c.network
  rw [hx, hm] at made
  exact made

theorem changeVlans_comes {x : Except Fault (Except Rejection Network)} {next : Console → Outcome}
    (hnext : ∀ m, x = .ok (.ok m) → (next (c.withNetwork m)).Comes P c.network) :
    (c.changeVlans x next).Comes P c.network := by
  refine attempt_comes (.refl _) fun r hr => ?_
  cases r with
  | ok m => exact hnext m hr
  | error r => exact .refl _

theorem editSelected_comes {f : Interface → Interface} {next : Interface → Console → Outcome}
    (hf : P (.editInterface c.session.uid c.session.place.interface f))
    (hnext : ∀ i m, c.network.Made P m → (next i (c.withNetwork m)).Comes P c.network) :
    (c.editSelected f next).Comes P c.network := by
  rw [editSelected]
  split
  · exact .refl _
  · refine attempt_comes (.refl _) fun p hp => hnext p.1 p.2 ?_
    have made := Network.Made.single hf c.network
    rwa [Network.apply, hp] at made

theorem setOnSelected_comes {f : Interface → Interface}
    (hf : P (.editInterface c.session.uid c.session.place.interface f)) :
    (c.setOnSelected f).Comes P c.network :=
  editSelected_comes hf fun _ _ h => h

theorem editSelectedLine_comes {f : Line → Line}
    (hf : P (.editLine c.session.uid c.session.place.line f)) :
    (c.editSelectedLine f).Comes P c.network := by
  rw [editSelectedLine]
  split
  · exact .refl _
  · refine attempt_comes (.refl _) fun p hp => ?_
    have made := Network.Made.single hf c.network
    rwa [Network.apply, hp] at made

theorem ping_comes (ip : String) : (c.ping ip).Comes P c.network := by
  rw [ping]
  split
  · exact .refl _
  · refine attempt_comes (.refl _) fun v _ => ?_
    dsimp only
    split
    · exact .refl _
    · exact .refl _

theorem showDevice_comes {view : Device → Except Fault (List String)} :
    (c.showDevice view).Comes P c.network :=
  attempt_comes (.refl _) fun _ _ => attempt_comes (.refl _) fun _ _ => .refl _

theorem nameDevice_comes {name : String} (h : P (.setHostname c.session.uid (.text name))) :
    (c.nameDevice name).Comes P c.network := by
  refine attempt_comes (.refl _) fun m hm => ?_
  have made := Network.Made.single h c.network
  rwa [Network.apply, hm] at made

theorem selectInterface_comes {words : List String}
    (h : P (.ensureInterface c.session.uid (.text (Port.normalize (String.join words))))) :
    (c.selectInterface words).Comes P c.network := by
  refine attempt_comes (.refl _) fun p hp => ?_
  have made := Network.Made.single h c.network
  rwa [Network.apply, hp] at made

theorem selectVlan_comes {word : String}
    (h : ∀ v, readVlan word = some v → P (.setVlan c.session.uid (.int v) .null)) :
    (c.selectVlan word).Comes P c.network := by
  refine attempt_comes (.refl _) fun d _ => ?_
  split
  · exact .refl _
  · split
    · exact .refl _
    · next v hv =>
      refine changeVlans_comes fun m hm => ?_
      have made := Network.Made.single (h v hv) c.network
      rwa [Network.apply_setVlan_int, hm] at made

theorem deleteVlan_comes {word : String}
    (h : ∀ v, readVlan word = some v → P (.removeVlan c.session.uid (.int v))) :
    (c.deleteVlan word).Comes P c.network := by
  rw [deleteVlan]
  split
  · exact .refl _
  · next v hv =>
    refine changeVlans_comes fun m hm => ?_
    have made := Network.Made.single (h v hv) c.network
    rwa [Network.apply, Network.removeVlanOf_int, hm] at made

theorem selectLine_comes {word : String} : (c.selectLine word).Comes P c.network := by
  rw [selectLine]
  split
  · exact .refl _
  · exact .refl _

theorem setPortMode_comes {word : String}
    (h : ∀ m, P (.editInterface c.session.uid c.session.place.interface fun i =>
      { i with mode := m })) : (c.setPortMode word).Comes P c.network := by
  rw [setPortMode]
  split
  · exact .refl _
  · exact setOnSelected_comes (h _)

theorem tagNeighbour_comes {vlan : Int} (hc : n.Made P c.network)
    (h : ∀ host, P (.setDisplayVlan host (.int vlan))) : (c.tagNeighbour vlan).Comes P n := by
  refine attempt_comes hc fun found _ => ?_
  cases found with
  | none => exact hc
  | some link =>
    dsimp only
    split
    · exact hc
    · next d _ =>
      split
      · refine attempt_comes hc fun m hm => hc.trans ?_
        have made := Network.Made.single (h d.uid) c.network
        rwa [Network.apply, hm] at made
      · exact hc

theorem setInterfaceAddress_comes {args : List String}
    (h : ∀ ip mask, P (.editInterface c.session.uid c.session.place.interface fun i =>
      { i with ip := .text ip, mask := .text mask })) :
    (c.setInterfaceAddress args).Comes P c.network := by
  unfold setInterfaceAddress
  split
  · exact setOnSelected_comes (h _ _)
  · exact .refl _

theorem nameVlan_comes {name : String}
    (h : P (.setVlan c.session.uid c.session.place.vlan (.text name))) :
    (c.nameVlan name).Comes P c.network := by
  rw [nameVlan]
  split
  · exact .refl _
  · have made := Network.Made.single h c.network
    rw [Network.apply] at made
    generalize c.network.setVlanOf c.session.uid c.session.place.vlan (.text name) = result at made
    obtain ⟨answer, m⟩ := result
    cases answer with
    | error f => exact made
    | ok r =>
      cases r with
      | none => exact made
      | some r => exact made

theorem leave_comes : c.leave.Comes P c.network := by
  rw [leave]
  split <;> exact .refl _

theorem finish_comes : c.finish.Comes P c.network := by
  rw [finish]
  split <;> exact .refl _

end Console

/-! ## Actions and lines -/

theorem Interface.keepsVlans_of_eq {f : Interface → Interface}
    (access : ∀ i, (f i).accessVlan = i.accessVlan)
    (native : ∀ i, (f i).nativeVlan = i.nativeVlan) : KeepsVlans f :=
  fun i hi => ⟨by rw [access]; exact hi.access, by rw [native]; exact hi.native⟩

variable {t : Timing} {args : List String} {c : Console}

/-- What an action makes of the network, the operations that are listed for it make of it. -/
theorem Action.run_comes (t : Timing) (args : List String) (c : Console) (a : Action) :
    (a.run t args c).Comes (a.Makes c.session.uid c.session.place args) c.network := by
  -- every other setting of an interface leaves its VLANs
  have other : ∀ {a : Action} {f : Interface → Interface}, (∀ i, (f i).accessVlan = i.accessVlan) →
      (∀ i, (f i).nativeVlan = i.nativeVlan) →
      (c.setOnSelected f).Comes (a.Makes c.session.uid c.session.place args) c.network :=
    fun access native =>
      Console.setOnSelected_comes (.setInterface (Interface.keepsVlans_of_eq access native))
  cases a with
  | ping => exact Console.ping_comes _
  | showRunningConfig => exact Console.showDevice_comes
  | showVlan => exact Console.showDevice_comes
  | showInterfaces => exact Console.showDevice_comes
  | hostname => exact Console.nameDevice_comes .hostname
  | interface => exact Console.selectInterface_comes .interface
  | vlan => exact Console.selectVlan_comes fun v hv => .vlan hv
  | noVlan => exact Console.deleteVlan_comes fun v hv => .noVlan hv
  | routing enabled => exact Console.configure_comes (.routing enabled) rfl
  | domainName => exact Console.configure_comes .domainName rfl
  | line => exact Console.selectLine_comes
  | shutdown down =>
    change (c.setShutdown down).Comes _ _
    exact Console.editSelected_comes
      (.setInterface (Interface.keepsVlans_of_eq (fun _ => rfl) fun _ => rfl)) fun _ _ h => h
  | portMode =>
    exact Console.setPortMode_comes fun m =>
      .setInterface (Interface.keepsVlans_of_eq (fun _ => rfl) fun _ => rfl)
  | accessVlan =>
    change (c.setAccessVlan _).Comes _ _
    rw [Console.setAccessVlan]
    split
    · exact .refl _
    · next v hv =>
      obtain ⟨low, high⟩ := Console.readVlan_range hv
      exact Console.editSelected_comes
        (.setInterface fun i hi => ⟨.int low high, hi.native⟩)
        fun _ _ h => Console.tagNeighbour_comes h fun host => .tag host v
  | trunkAllowed => exact other (fun _ => rfl) fun _ => rfl
  | trunkNative =>
    change (c.setNativeVlan _).Comes _ _
    rw [Console.setNativeVlan]
    split
    · exact .refl _
    · next v hv =>
      obtain ⟨low, high⟩ := Console.readVlan_range hv
      exact Console.setOnSelected_comes
        (.setInterface fun i hi => ⟨hi.access, .int low high⟩)
  | address =>
    exact Console.setInterfaceAddress_comes fun _ _ =>
      .setInterface (Interface.keepsVlans_of_eq (fun _ => rfl) fun _ => rfl)
  | noAddress => exact other (fun _ => rfl) fun _ => rfl
  | description => exact other (fun _ => rfl) fun _ => rfl
  | noDescription => exact other (fun _ => rfl) fun _ => rfl
  | vlanName => exact Console.nameVlan_comes .vlanName
  | password => exact Console.editSelectedLine_comes (.setLine _)
  | noPassword => exact Console.editSelectedLine_comes (.setLine _)
  | login required => exact Console.editSelectedLine_comes (.setLine _)
  | exit => exact Console.leave_comes
  | finish => exact Console.finish_comes
  | _ => exact .refl _

/-- The mode of the session does not matter to what an action makes. -/
theorem Action.Makes.of_mode {uid : String} {p : Place} {m : Mode} {a : Action} {op : Operation}
    (h : a.Makes uid { p with mode := m } args op) : a.Makes uid p args op := by
  cases h with
  | hostname => exact .hostname
  | routing enabled => exact .routing enabled
  | domainName => exact .domainName
  | interface => exact .interface
  | vlan written => exact .vlan written
  | noVlan written => exact .noVlan written
  | vlanName => exact .vlanName
  | setInterface keeps => exact .setInterface keeps
  | tag host v => exact .tag host v
  | setLine f => exact .setLine f

/-- What a line means makes an operation: it is an action that makes it, under `do` or not. -/
def Command.Meaning.Makes (m : Command.Meaning) (uid : String) (p : Place)
    (op : Operation) : Prop :=
  ∃ a args, (m = .plain a args ∨ m = .privileged a args) ∧ a.Makes uid p args op

/-- What a line makes of the network, the operations that are listed for its meaning make of it. -/
theorem Console.carryOut_comes (t : Timing) (c : Console) (m : Command.Meaning) :
    (c.carryOut t m).Comes (m.Makes c.session.uid c.session.place) c.network := by
  cases m with
  | refused r => exact .refl _
  | plain a args => exact (a.run_comes t args c).imp fun op h => ⟨a, args, .inl rfl, h⟩
  | privileged a args =>
    have inner := a.run_comes t args c.privileged
    rw [carryOut, Outcome.Comes, Outcome.network_backTo]
    exact inner.imp fun op h => ⟨a, args, .inr rfl, h.of_mode⟩

end NetLab
