import NetLab.Proofs.Console.Answer
import NetLab.Proofs.Console.Scene
import NetLab.Proofs.Console.TwinView

set_option autoImplicit false

/-!
# Commands do the same on twins

A command does the same on two networks that are twins, from sessions that stand at the same place
of the same device, at whatever times it is carried out: it prints the same, is refused for the same
reason or ends in the same fault, and leaves twins and sessions that stand alike.  One command
prints what depends on more than that: the history of a session.  There is one lemma for each way
in which commands are carried out, one for all actions, and one for lines.
-/

namespace NetLab

/-- The sessions stand at the same place of the same device, are open or closed alike, and are
booting or not alike.  When they will have booted is left open, and so is the host name that they
show. -/
structure Standing.Twin (s s' : Standing) : Prop where
  uid : s'.uid = s.uid
  place : s'.place = s.place
  closed : s'.closed = s.closed
  booting : s'.deadline.isSome = s.deadline.isSome

/-- What the commands can reach are networks that are twins, and sessions that stand alike. -/
structure Console.Twin (c c' : Console) : Prop where
  network : c.network.Twin c'.network
  standing : c.session.standing.Twin c'.session.standing

/-- The commands came to the same.  What is printed may be excepted. -/
inductive Outcome.Twin (excepted : Prop) : Outcome → Outcome → Prop where
  | done {output output' : String} {c c' : Console} (printed : ¬ excepted → output' = output)
      (next : c.Twin c') : Twin excepted (.done output c) (.done output' c')
  | refused (r : Refusal) {c c' : Console} (next : c.Twin c') :
      Twin excepted (.refused r c) (.refused r c')
  | failed (f : Fault) {c c' : Console} (next : c.Twin c') :
      Twin excepted (.failed f c) (.failed f c')

namespace Console.Twin

variable {c c' : Console} {d : Device} {t t' : Timing} {excepted : Prop}

/-! ## Consoles -/

theorem uid (h : c.Twin c') : c'.session.uid = c.session.uid := h.standing.uid

theorem place (h : c.Twin c') : c'.session.place = c.session.place := h.standing.place

theorem mode (h : c.Twin c') : c'.session.mode = c.session.mode := congrArg Place.mode h.place

theorem withNetwork {n n' : Network} (h : c.Twin c') (hn : n.Twin n') :
    (c.withNetwork n).Twin (c'.withNetwork n') := ⟨hn, h.standing⟩

theorem onSession {f f' : Session → Session} (h : c.Twin c')
    (hf : (f c.session).standing.Twin (f' c'.session).standing) :
    (c.onSession f).Twin (c'.onSession f') := ⟨h.network, hf⟩

theorem send {r r' : Report} (h : c.Twin c') : (c.send r).Twin (c'.send r') :=
  ⟨h.network, h.standing⟩

/-- Both sessions go to one place. -/
theorem setPlace (h : c.Twin c') (p : Place) :
    (c.onSession fun s => { s with place := p }).Twin
      (c'.onSession fun s => { s with place := p }) :=
  h.onSession ⟨h.uid, rfl, h.standing.closed, h.standing.booting⟩

theorem privileged (h : c.Twin c') : c.privileged.Twin c'.privileged := by
  refine h.onSession ⟨h.uid, ?_, h.standing.closed, h.standing.booting⟩
  change { c'.session.place with mode := .privileged } =
    { c.session.place with mode := .privileged }
  rw [h.place]

/-! ## Ways to carry out a command -/

theorem quiet (h : c.Twin c') : (c.quiet).Twin excepted c'.quiet := .done (fun _ => rfl) h

/-- One and the same text is printed. -/
theorem print (h : c.Twin c') (output : String) :
    (Outcome.done output c).Twin excepted (.done output c') := .done (fun _ => rfl) h

/-- Operations that end alike go on alike. -/
theorem attempt {α β : Type} {R : α → β → Prop} {x : Except Fault α} {x' : Except Fault β}
    {next : α → Outcome} {next' : β → Outcome} (h : c.Twin c') (hx : Matching R x x')
    (hnext : ∀ a b, R a b → (next a).Twin excepted (next' b)) :
    (c.attempt x next).Twin excepted (c'.attempt x' next') := by
  cases hx with
  | ok related => exact hnext _ _ related
  | error f => exact .failed f h

/-- One and the same operation goes on alike. -/
theorem attempt_same {α : Type} {x : Except Fault α} {next next' : α → Outcome} (h : c.Twin c')
    (hnext : ∀ a, (next a).Twin excepted (next' a)) :
    (c.attempt x next).Twin excepted (c'.attempt x next') := by
  refine h.attempt (Matching.of_eq rfl) fun a b hab => ?_
  subst hab
  exact hnext a

theorem configure {x x' : Except Fault Network} (h : c.Twin c') (hx : Matching Network.Twin x x') :
    (c.configure x).Twin excepted (c'.configure x') :=
  h.attempt hx fun _ _ hn => (h.withNetwork hn).quiet

/-- Both devices are changed in a way that does not depend on interfaces. -/
theorem configure_settings {f : Device → Device} (h : c.Twin c')
    (hf : ∀ (d : Device) (r : Roster Value Interface),
      f (d.withInterfaces r) = (f d).withInterfaces r) :
    (c.configure (c.network.update c.session.uid f)).Twin excepted
      (c'.configure (c'.network.update c'.session.uid f)) := by
  rw [h.uid]
  exact h.configure (h.network.update_settings hf)

theorem changeVlans {x x' : Except Fault (Except Rejection Network)} {next : Console → Outcome}
    (h : c.Twin c') (hx : Matching (Matching Network.Twin) x x')
    (hnext : ∀ c c' : Console, c.Twin c' → (next c).Twin excepted (next c')) :
    (c.changeVlans x next).Twin excepted (c'.changeVlans x' next) := by
  refine h.attempt hx fun r r' hr => ?_
  cases hr with
  | ok hn => exact hnext _ _ (h.withNetwork hn)
  | error r => exact .refused _ h

theorem ping (h : c.Twin c') (ip : String) : (c.ping ip).Twin excepted (c'.ping ip) := by
  have found := h.network.deviceByAddress (.text ip)
  rw [Console.ping, Console.ping]
  generalize c.network.deviceByAddress (.text ip) = x at found
  generalize c'.network.deviceByAddress (.text ip) = y at found
  cases x with
  | none =>
    obtain rfl : y = none := by simpa using found
    exact h.print _
  | some target =>
    obtain ⟨target', rfl, same⟩ := Option.map_eq_some_iff.1 found
    dsimp only at same ⊢
    rw [h.uid, same, h.network.trace]
    refine h.attempt_same fun v => ?_
    split
    · exact h.send.print _
    · exact h.send.print _

/-- What a device shows is printed, if twins show the same. -/
theorem showDevice {view view' : Device → Except Fault (List String)} (h : c.Twin c')
    (found : c.network.device? c.session.uid = some d)
    (same : ∀ {d' : Device}, d.Twin d' → view' d' = view d) :
    (c.showDevice view).Twin excepted (c'.showDevice view') := by
  have there := h.network.device c.session.uid
  rw [Network.succeeds_device found] at there
  rw [Console.showDevice, Console.showDevice, h.uid, Network.succeeds_device found]
  generalize c'.network.device c.session.uid = y at there
  cases there with
  | ok twin =>
    change (c.attempt (view d) _).Twin excepted (c'.attempt (view' _) _)
    rw [same twin]
    exact h.attempt_same fun lines => h.print _

theorem nameDevice (h : c.Twin c') (name : String) :
    (c.nameDevice name).Twin excepted (c'.nameDevice name) := by
  rw [Console.nameDevice, Console.nameDevice, h.uid]
  refine h.attempt (h.network.update_settings fun _ _ => rfl) fun n n' hn => ?_
  have named : ((c.withNetwork n).onSession fun s => { s with hostname := .text name }).Twin
      ((c'.withNetwork n').onSession fun s => { s with hostname := .text name }) :=
    (h.withNetwork hn).onSession ⟨h.uid, h.place, h.standing.closed, h.standing.booting⟩
  exact named.quiet

theorem selectInterface (h : c.Twin c') (words : List String) :
    (c.selectInterface words).Twin excepted (c'.selectInterface words) := by
  rw [Console.selectInterface, Console.selectInterface, h.uid]
  refine h.attempt (h.network.ensureInterface _ _) fun p p' hp => ?_
  exact ((h.withNetwork hp.2).setPlace _).quiet

theorem selectVlan (h : c.Twin c') (word : String) :
    (c.selectVlan word).Twin excepted (c'.selectVlan word) := by
  rw [Console.selectVlan, Console.selectVlan, h.uid]
  refine h.attempt (h.network.device _) fun d d' hd => ?_
  rw [hd.supportsVlans]
  split
  · exact .refused _ h
  · split
    · exact .refused _ h
    · exact h.changeVlans (h.network.setVlan _ _ _) fun _ _ next => (next.setPlace _).quiet

theorem deleteVlan (h : c.Twin c') (word : String) :
    (c.deleteVlan word).Twin excepted (c'.deleteVlan word) := by
  rw [Console.deleteVlan, Console.deleteVlan, h.uid]
  split
  · exact .refused _ h
  · exact h.changeVlans (h.network.removeVlan _ _) fun _ _ next => next.quiet

theorem selectLine (h : c.Twin c') (word : String) :
    (c.selectLine word).Twin excepted (c'.selectLine word) := by
  rw [Console.selectLine, Console.selectLine]
  split
  · exact .refused _ h
  · exact (h.setPlace _).quiet

/-! ### Interfaces -/

theorem editSelected {f : Interface → Interface} {next next' : Interface → Console → Outcome}
    (h : c.Twin c') (hnext : ∀ (i : Interface) (c c' : Console), c.Twin c' →
      (next i c).Twin excepted (next' i c')) :
    (c.editSelected f next).Twin excepted (c'.editSelected f next') := by
  rw [Console.editSelected, Console.editSelected, h.place, h.uid]
  split
  · exact .failed _ h
  · refine h.attempt (h.network.editInterface _ _ _) fun p p' hp => ?_
    rw [hp.1]
    exact hnext _ _ _ (h.withNetwork hp.2)

theorem setOnSelected (h : c.Twin c') (f : Interface → Interface) :
    (c.setOnSelected f).Twin excepted (c'.setOnSelected f) :=
  h.editSelected fun _ _ _ next => next.quiet

theorem setShutdown (h : c.Twin c') (down : Bool) :
    (c.setShutdown down).Twin excepted (c'.setShutdown down) :=
  h.editSelected fun _ _ _ next => next.print _

theorem setPortMode (h : c.Twin c') (word : String) :
    (c.setPortMode word).Twin excepted (c'.setPortMode word) := by
  rw [Console.setPortMode, Console.setPortMode]
  split
  · exact .refused _ h
  · exact h.setOnSelected _

theorem tagNeighbour (h : c.Twin c') (vlan : Int) :
    (c.tagNeighbour vlan).Twin excepted (c'.tagNeighbour vlan) := by
  rw [Console.tagNeighbour, Console.tagNeighbour, h.place, h.uid, h.network.links]
  refine h.attempt_same fun found => ?_
  cases found with
  | none => exact h.quiet
  | some link =>
    dsimp only
    have there := h.network.devices (link.other c.session.uid)
    generalize c.network.devices.get? (link.other c.session.uid) = x at there
    generalize c'.network.devices.get? (link.other c.session.uid) = y at there
    cases there with
    | none => exact h.quiet
    | some twin =>
      dsimp only
      rw [twin.kind, twin.uid]
      split
      · refine h.attempt (h.network.update_settings fun _ _ => rfl) fun n n' hn => ?_
        exact (h.withNetwork hn).print _
      · exact h.quiet

theorem setAccessVlan (h : c.Twin c') (word : String) :
    (c.setAccessVlan word).Twin excepted (c'.setAccessVlan word) := by
  rw [Console.setAccessVlan, Console.setAccessVlan]
  split
  · exact .refused _ h
  · exact h.editSelected fun _ _ _ next => next.tagNeighbour _

theorem setNativeVlan (h : c.Twin c') (word : String) :
    (c.setNativeVlan word).Twin excepted (c'.setNativeVlan word) := by
  rw [Console.setNativeVlan, Console.setNativeVlan]
  split
  · exact .refused _ h
  · exact h.setOnSelected _

theorem setInterfaceAddress (h : c.Twin c') (args : List String) :
    (c.setInterfaceAddress args).Twin excepted (c'.setInterfaceAddress args) := by
  unfold Console.setInterfaceAddress
  split
  · exact h.setOnSelected _
  · exact .refused _ h

/-! ### VLANs, lines and modes -/

/-- The VLAN that is selected is given by a whole number. -/
theorem nameVlan (h : c.Twin c') {vlan : Int} (current : c.session.place.vlan = .int vlan)
    (name : String) : (c.nameVlan name).Twin excepted (c'.nameVlan name) := by
  have set := h.network.setVlan c.session.uid vlan (.text name)
  rw [Console.nameVlan, Console.nameVlan, h.place, h.uid, current]
  dsimp only
  rw [Network.setVlanOf_int, Network.setVlanOf_int]
  generalize c.network.setVlan c.session.uid vlan (.text name) = x at set
  generalize c'.network.setVlan c.session.uid vlan (.text name) = y at set
  cases set with
  | error f => exact .failed f (h.withNetwork h.network)
  | ok inner =>
    cases inner with
    | ok hn => exact (h.withNetwork hn).quiet
    | error r => exact .refused _ (h.withNetwork h.network)

theorem editSelectedLine (h : c.Twin c') (f : Line → Line) :
    (c.editSelectedLine f).Twin excepted (c'.editSelectedLine f) := by
  rw [Console.editSelectedLine, Console.editSelectedLine, h.place, h.uid]
  split
  · exact .failed _ h
  · exact h.attempt (h.network.editLine _ _ _) fun p p' hp => (h.withNetwork hp.2).quiet

theorem leave (h : c.Twin c') : c.leave.Twin excepted c'.leave := by
  rw [Console.leave, Console.leave, h.mode]
  split
  · have closed : (c.onSession Session.close).Twin (c'.onSession Session.close) :=
      h.onSession ⟨h.uid, h.place, rfl, rfl⟩
    exact closed.send.print _
  · exact (h.setPlace _).quiet
  · exact (h.setPlace _).quiet
  · exact (h.setPlace _).quiet

theorem finish (h : c.Twin c') : c.finish.Twin excepted c'.finish := by
  rw [Console.finish, Console.finish, h.mode]
  split
  · exact .refused _ h
  · exact (h.setPlace _).quiet

/-- Both devices restart, each in its own time. -/
theorem reload (h : c.Twin c') : (c.reload t).Twin excepted (c'.reload t') := by
  have halted : (c.onSession (·.halt (t.now.add t.bootDelay))).Twin
      (c'.onSession (·.halt (t'.now.add t'.bootDelay))) :=
    h.onSession ⟨h.uid, h.place, h.standing.closed, rfl⟩
  exact halted.send.quiet

/-! ## Actions and lines -/

/-- An action of the mode of the session does the same on twins. -/
theorem run {a : Action} (h : c.Twin c') (on : c.On d) (ha : a.isOf c.session.mode = true)
    (args : List String) : (a.run t args c).Twin (a = .showHistory) (a.run t' args c') := by
  have proper := on.storable.proper _ _ on.found
  cases a with
  | enable => exact h.privileged.quiet
  | disable => exact (h.setPlace _).quiet
  | configure => exact (h.setPlace _).print _
  | ping => exact h.ping _
  | showVersion => exact h.print _
  | showRunningConfig =>
    exact h.showDevice on.found fun twin =>
      Show.runningConfig_of_twin twin proper on.storable_device
  | showVlan =>
    exact h.showDevice on.found fun twin =>
      Show.vlanBrief_of_twin twin on.storable_device on.typed_device
  | showInterfaces =>
    refine h.showDevice on.found fun twin => ?_
    rw [h.network.links]
    exact Show.interfaceBrief_of_twin twin on.storable_device
  | showHistory => exact .done (fun plain => absurd rfl plain) h
  | reload => exact h.reload
  | vlanOutsideConfig => exact .refused _ h
  | hostname => exact h.nameDevice _
  | interface => exact h.selectInterface _
  | vlan => exact h.selectVlan _
  | noVlan => exact h.deleteVlan _
  | routing enabled => exact h.configure_settings fun _ _ => rfl
  | domainName => exact h.configure_settings fun _ _ => rfl
  | line => exact h.selectLine _
  | shutdown down => exact h.setShutdown _
  | portMode => exact h.setPortMode _
  | accessVlan => exact h.setAccessVlan _
  | trunkAllowed => exact h.setOnSelected _
  | trunkNative => exact h.setNativeVlan _
  | address => exact h.setInterfaceAddress _
  | noAddress => exact h.setOnSelected _
  | description => exact h.setOnSelected _
  | noDescription => exact h.setOnSelected _
  | vlanName =>
    obtain ⟨vlan, current⟩ := on.vlan (by simpa [Action.isOf] using ha)
    exact h.nameVlan current _
  | password => exact h.editSelectedLine _
  | noPassword => exact h.editSelectedLine _
  | login required => exact h.editSelectedLine _
  | exit => exact h.leave
  | finish => exact h.finish
  | help =>
    change (Outcome.done (Command.helpText c.session.mode) c).Twin _
      (.done (Command.helpText c'.session.mode) c')
    rw [h.mode]
    exact h.print _
  | exec => exact .refused _ h
  | clear => exact (h.onSession h.standing).quiet

end Console.Twin

theorem Outcome.Twin.backTo {o o' : Outcome} {excepted : Prop} (h : o.Twin excepted o')
    (p : Place) : (o.backTo p).Twin excepted (o'.backTo p) := by
  cases h with
  | done printed next => exact .done printed (next.setPlace p)
  | refused r next => exact .refused r (next.setPlace p)
  | failed f next => exact .failed f (next.setPlace p)

/-- A line does the same on twins, unless it prints a history. -/
theorem Console.Twin.carryOut {c c' : Console} {d : Device} {t t' : Timing} (h : c.Twin c')
    (on : c.On d) (words : List String) :
    (c.carryOut t (Command.meaning c.session.mode words)).Twin
      ((Command.meaning c.session.mode words).action? = some .showHistory)
      (c'.carryOut t' (Command.meaning c'.session.mode words)) := by
  have means := @Command.means_of_meaning words c.session.mode
  rw [h.mode]
  cases hmeaning : Command.meaning c.session.mode words with
  | refused r => exact .refused r h
  | plain a args =>
    rw [Command.Meaning.action?, Option.some.injEq]
    exact h.run on (means.1 a args hmeaning).isOf args
  | privileged a args =>
    rw [Command.Meaning.action?, Option.some.injEq, Console.carryOut, Console.carryOut, h.place]
    exact (h.privileged.run on.privileged (means.2 a args hmeaning).isOf args).backTo _

end NetLab
