import NetLab.Proofs.Console.Refusal

set_option autoImplicit false

/-!
# What commands make of their sessions

A command leaves its session as it is, or names it, takes it somewhere else, wipes its screen,
restarts its device or ends it, and what it sends tells of a packet, of the restart or of the end.
`Session.Step` lists this, one constructor for each way, with the action to which it belongs, and
`Session.Took` does so for what a line means.  What was typed and which hints wait are in no way of
the list; what stood on the screen stays there, except under the two commands that wipe the screen
(`Action.wipes`).
-/

namespace NetLab

/-- The report says that a hint was shown. -/
def Report.isHint : Report → Bool
  | .hint _ => true
  | _ => false

/-- The action leaves an empty screen. -/
def Action.wipes : Action → Bool
  | .reload | .clear => true
  | _ => false

/-- The action that a line comes to leaves an empty screen. -/
def Command.Meaning.wipes (m : Command.Meaning) : Bool := m.action?.any Action.wipes

/-- The mode to which an action takes a session that stands in a mode, if it takes it anywhere. -/
def Action.target? (m : Mode) : Action → Option Mode
  | .enable => some .privileged
  | .disable => some .user
  | .configure => some .config
  | .interface => some .interface
  | .vlan => some .vlan
  | .line => some .line
  | .exit =>
    match m with
    | .user => none
    | .privileged => some .user
    | .config => some .privileged
    | _ => some .config
  | .finish => if m.isExec then none else some .privileged
  | _ => none

/-- What an action makes of its session, and what it sends. -/
inductive Session.Step (a : Action) (s : Session) : Session → List Report → Prop where
  | stays (keeps : a.wipes = false) : Step a s s []
  | named (keeps : a.wipes = false) (hostname : Value) : Step a s { s with hostname } []
  | goes {place : Place} (leads : a.target? s.mode = some place.mode) :
      Step a s { s with place } []
  | pings (keeps : a.wipes = false) (target : String) (success : Bool) (reason : Route.Reason) :
      Step a s s [.ping target success reason]
  | clears (clear : a = .clear) : Step a s { s with transcript := [] } []
  | halts (reload : a = .reload) (deadline seconds : Double) :
      Step a s (s.halt deadline) [.reload seconds]
  | closes (exit : a = .exit) (mode : s.mode = .user) : Step a s s.close [.closed]

/-- What a line that means this makes of its session, and what it sends. -/
inductive Session.Took (s : Session) (m : Command.Meaning) : Session → List Report → Prop where
  | refused (keeps : m.wipes = false) : Took s m s []
  | plain {a : Action} {args : List String} {s' : Session} {rs : List Report}
      (meant : m = .plain a args) (step : s.Step a s' rs) : Took s m s' rs
  /-- what is done as in privileged mode leaves the session in its place -/
  | privileged {a : Action} {args : List String} {s' : Session} {rs : List Report}
      (meant : m = .privileged a args)
      (step : Session.Step a { s with place.mode := .privileged } s' rs) :
      Took s m { s' with place := s.place } rs

/-- The outcome of an action is one of those that are listed. -/
def Outcome.Steps (a : Action) (c : Console) : Outcome → Prop
  | .done _ c' | .failed _ c' => ∃ rs, c.session.Step a c'.session rs ∧
      c'.notices = c.notices ++ rs.map fun r => ⟨c.session.uid, r⟩
  | .refused _ _ => a.wipes = false

/-- The outcome of a line that means this is one of those that are listed. -/
def Outcome.Took (m : Command.Meaning) (c : Console) : Outcome → Prop
  | .done _ c' | .failed _ c' => ∃ rs, c.session.Took m c'.session rs ∧
      c'.notices = c.notices ++ rs.map fun r => ⟨c.session.uid, r⟩
  | .refused _ c' => m.wipes = false ∧ c' = c

/-! ## Ways to carry out a command -/

namespace Console

variable {c : Console} {a : Action} {t : Timing}

/-- An action that sends nothing. -/
theorem steps_silent {c' : Console} {output : String} (step : c.session.Step a c'.session [])
    (notices : c'.notices = c.notices) : (Outcome.done output c').Steps a c :=
  ⟨[], step, by rw [notices, List.map_nil, List.append_nil]⟩

/-- The network may have changed, and nothing else has. -/
theorem steps_withNetwork (keeps : a.wipes = false) (output : String) (n : Network) :
    (Outcome.done output (c.withNetwork n)).Steps a c := steps_silent (.stays keeps) rfl

theorem steps_failed (keeps : a.wipes = false) (f : Fault) (n : Network) :
    (Outcome.failed f (c.withNetwork n)).Steps a c :=
  ⟨[], .stays keeps, (List.append_nil _).symm⟩

theorem attempt_steps {α : Type} {x : Except Fault α} {next : α → Outcome}
    (keeps : a.wipes = false) (hnext : ∀ v, (next v).Steps a c) : (c.attempt x next).Steps a c := by
  cases x with
  | ok v => exact hnext v
  | error f => exact steps_failed keeps f c.network

theorem ping_steps (ip : String) : (c.ping ip).Steps .ping c := by
  rw [ping]
  split
  · exact steps_withNetwork rfl _ c.network
  · next target _ =>
    refine attempt_steps rfl fun v => ?_
    have sent : c.session.Step .ping c.session [.ping target.uid v.success v.reason] :=
      .pings rfl _ _ _
    dsimp only
    split
    · exact ⟨_, sent, rfl⟩
    · exact ⟨_, sent, rfl⟩

theorem showDevice_steps (keeps : a.wipes = false) (view : Device → Except Fault (List String)) :
    (c.showDevice view).Steps a c :=
  attempt_steps keeps fun _ => attempt_steps keeps fun _ => steps_withNetwork keeps _ c.network

/-- The network is changed and nothing is printed. -/
theorem configure_steps (keeps : a.wipes = false) (x : Except Fault Network) :
    (c.configure x).Steps a c := attempt_steps keeps (steps_withNetwork keeps "")

theorem nameDevice_steps (name : String) : (c.nameDevice name).Steps .hostname c :=
  attempt_steps rfl fun _ => steps_silent (.named rfl _) rfl

theorem selectInterface_steps (words : List String) :
    (c.selectInterface words).Steps .interface c :=
  attempt_steps rfl fun _ => steps_silent (.goes rfl) rfl

theorem changeVlans_steps {x : Except Fault (Except Rejection Network)} {next : Console → Outcome}
    (keeps : a.wipes = false) (hnext : ∀ n, (next (c.withNetwork n)).Steps a c) :
    (c.changeVlans x next).Steps a c := by
  refine attempt_steps keeps fun r => ?_
  cases r with
  | ok n => exact hnext n
  | error r => exact keeps

theorem selectVlan_steps (word : String) : (c.selectVlan word).Steps .vlan c := by
  refine attempt_steps rfl fun d => ?_
  split
  · rfl
  · split
    · rfl
    · exact changeVlans_steps rfl fun _ => steps_silent (.goes rfl) rfl

theorem deleteVlan_steps (word : String) : (c.deleteVlan word).Steps .noVlan c := by
  rw [deleteVlan]
  split
  · rfl
  · exact changeVlans_steps rfl (steps_withNetwork rfl "")

theorem selectLine_steps (word : String) : (c.selectLine word).Steps .line c := by
  rw [selectLine]
  split
  · rfl
  · exact steps_silent (.goes rfl) rfl

theorem editSelected_steps {f : Interface → Interface} {next : Interface → Console → Outcome}
    (keeps : a.wipes = false) (hnext : ∀ i n, (next i (c.withNetwork n)).Steps a c) :
    (c.editSelected f next).Steps a c := by
  rw [editSelected]
  split
  · exact steps_failed keeps _ c.network
  · exact attempt_steps keeps fun p => hnext p.1 p.2

theorem setOnSelected_steps (keeps : a.wipes = false) (f : Interface → Interface) :
    (c.setOnSelected f).Steps a c :=
  editSelected_steps keeps fun _ => steps_withNetwork keeps ""

theorem setShutdown_steps (down : Bool) : (c.setShutdown down).Steps (.shutdown down) c :=
  editSelected_steps rfl fun _ => steps_withNetwork rfl _

theorem setPortMode_steps (word : String) : (c.setPortMode word).Steps .portMode c := by
  rw [setPortMode]
  split
  · rfl
  · exact setOnSelected_steps rfl _

theorem tagNeighbour_steps (vlan : Int) : (c.tagNeighbour vlan).Steps .accessVlan c := by
  have quiet : c.quiet.Steps .accessVlan c := steps_withNetwork rfl "" c.network
  refine attempt_steps rfl fun link => ?_
  split
  · exact quiet
  · split
    · exact quiet
    · split
      · exact attempt_steps rfl (steps_withNetwork rfl _)
      · exact quiet

theorem setAccessVlan_steps (word : String) : (c.setAccessVlan word).Steps .accessVlan c := by
  rw [setAccessVlan]
  split
  · rfl
  · exact editSelected_steps rfl fun _ n => tagNeighbour_steps (c := c.withNetwork n) _

theorem setNativeVlan_steps (word : String) : (c.setNativeVlan word).Steps .trunkNative c := by
  rw [setNativeVlan]
  split
  · rfl
  · exact setOnSelected_steps rfl _

theorem setInterfaceAddress_steps (args : List String) :
    (c.setInterfaceAddress args).Steps .address c := by
  rw [setInterfaceAddress.eq_def]
  split
  · exact setOnSelected_steps rfl _
  · rfl

theorem nameVlan_steps (name : String) : (c.nameVlan name).Steps .vlanName c := by
  rw [nameVlan]
  split
  · exact steps_failed rfl _ c.network
  · split
    · exact steps_withNetwork rfl "" _
    · rfl
    · exact steps_failed rfl _ _

theorem editSelectedLine_steps (keeps : a.wipes = false) (f : Line → Line) :
    (c.editSelectedLine f).Steps a c := by
  rw [editSelectedLine]
  split
  · exact steps_failed keeps _ c.network
  · exact attempt_steps keeps fun p => steps_withNetwork keeps "" p.2

/-- User mode is left by closing the session, any other mode for the one outside it. -/
theorem leave_steps : c.leave.Steps .exit c := by
  have goes : ∀ m : Mode, Action.target? c.session.mode .exit = some m →
      (c.onSession (·.enter m)).quiet.Steps .exit c := fun m leads => steps_silent (.goes leads) rfl
  rw [leave]
  split
  · next mode => exact ⟨_, .closes rfl mode, rfl⟩
  · next mode => exact goes .user (by rw [mode]; rfl)
  · next mode => exact goes .privileged (by rw [mode]; rfl)
  · next user privileged config =>
    refine goes .config ?_
    rw [Action.target?]
    · exact user
    · exact privileged
    · exact config

theorem finish_steps : c.finish.Steps .finish c := by
  rw [finish]
  split
  · rfl
  · next configuring => exact steps_silent (.goes (if_neg configuring)) rfl

theorem reload_steps : (c.reload t).Steps .reload c := ⟨_, .halts rfl _ _, rfl⟩

end Console

open Console in
/-- Every action does to its session what is listed. -/
theorem Action.run_steps (t : Timing) (args : List String) (c : Console) (a : Action) :
    (a.run t args c).Steps a c := by
  cases a with
  | enable => exact steps_silent (.goes rfl) rfl
  | disable => exact steps_silent (.goes rfl) rfl
  | configure => exact steps_silent (.goes rfl) rfl
  | ping => exact ping_steps _
  | showVersion => exact steps_withNetwork rfl _ c.network
  | showRunningConfig => exact showDevice_steps rfl _
  | showVlan => exact showDevice_steps rfl _
  | showInterfaces => exact showDevice_steps rfl _
  | showHistory => exact steps_withNetwork rfl _ c.network
  | reload => exact reload_steps
  | vlanOutsideConfig => rfl
  | hostname => exact nameDevice_steps _
  | interface => exact selectInterface_steps _
  | vlan => exact selectVlan_steps _
  | noVlan => exact deleteVlan_steps _
  | routing enabled => exact configure_steps rfl _
  | domainName => exact configure_steps rfl _
  | line => exact selectLine_steps _
  | shutdown down => exact setShutdown_steps _
  | portMode => exact setPortMode_steps _
  | accessVlan => exact setAccessVlan_steps _
  | trunkAllowed => exact setOnSelected_steps rfl _
  | trunkNative => exact setNativeVlan_steps _
  | address => exact setInterfaceAddress_steps _
  | noAddress => exact setOnSelected_steps rfl _
  | description => exact setOnSelected_steps rfl _
  | noDescription => exact setOnSelected_steps rfl _
  | vlanName => exact nameVlan_steps _
  | password => exact editSelectedLine_steps rfl _
  | noPassword => exact editSelectedLine_steps rfl _
  | login required => exact editSelectedLine_steps rfl _
  | exit => exact leave_steps
  | finish => exact finish_steps
  | help => exact steps_withNetwork rfl _ c.network
  | exec => rfl
  | clear => exact steps_silent (.clears rfl) rfl

namespace Outcome.Steps

variable {o : Outcome} {a : Action} {c : Console}

/-- What is carried out where the session stands. -/
theorem took_plain (h : o.Steps a c) (spares : o.Spares c) (args : List String) :
    o.Took (.plain a args) c := by
  cases o with
  | done output c' =>
    obtain ⟨rs, step, notices⟩ := h
    exact ⟨rs, .plain rfl step, notices⟩
  | refused r c' => exact ⟨h, spares⟩
  | failed f c' =>
    obtain ⟨rs, step, notices⟩ := h
    exact ⟨rs, .plain rfl step, notices⟩

/-- What is carried out as in privileged mode, before the session goes back to its place. -/
theorem took_privileged (h : o.Steps a c.privileged) (spares : o.Spares c.privileged)
    (args : List String) : (o.backTo c.session.place).Took (.privileged a args) c := by
  cases o with
  | done output c' =>
    obtain ⟨rs, step, notices⟩ := h
    exact ⟨rs, .privileged rfl step, notices⟩
  | refused r c' => exact ⟨h, spares.backTo⟩
  | failed f c' =>
    obtain ⟨rs, step, notices⟩ := h
    exact ⟨rs, .privileged rfl step, notices⟩

end Outcome.Steps

/-- Whatever a line means, carrying it out does to the session what is listed. -/
theorem Console.carryOut_took (t : Timing) (c : Console) (m : Command.Meaning) :
    (c.carryOut t m).Took m c := by
  cases m with
  | refused r => exact ⟨rfl, rfl⟩
  | plain a args => exact (a.run_steps t args c).took_plain (a.run_spares t args c) args
  | privileged a args =>
    exact (a.run_steps t args c.privileged).took_privileged (a.run_spares t args c.privileged) args

/-! ## Terminals -/

/-- A session is still the one on this terminal, the screen of which shows these lines. -/
structure Session.Continues (s : Session) (screen : List String) (s' : Session) : Prop where
  uid : s'.uid = s.uid
  history : s'.history = s.history
  cursor : s'.cursor = s.cursor
  hints : s'.hints = s.hints
  transcript : s'.transcript = screen

namespace Session

variable {a : Action} {m : Command.Meaning} {s s' : Session} {rs : List Report}

theorem Step.continues (h : s.Step a s' rs) :
    s.Continues (if a.wipes then [] else s.transcript) s' := by
  have kept : a.wipes = false → s.transcript = if a.wipes then [] else s.transcript :=
    fun keeps => by rw [keeps, if_neg Bool.false_ne_true]
  cases h with
  | stays keeps => exact ⟨rfl, rfl, rfl, rfl, kept keeps⟩
  | named keeps hostname => exact ⟨rfl, rfl, rfl, rfl, kept keeps⟩
  | goes leads =>
    refine ⟨rfl, rfl, rfl, rfl, kept ?_⟩
    cases a with
    | reload => cases leads
    | clear => cases leads
    | _ => rfl
  | pings keeps target success reason => exact ⟨rfl, rfl, rfl, rfl, kept keeps⟩
  | clears clear =>
    subst clear
    exact ⟨rfl, rfl, rfl, rfl, rfl⟩
  | halts reload deadline seconds =>
    subst reload
    exact ⟨rfl, rfl, rfl, rfl, rfl⟩
  | closes exit mode =>
    subst exit
    exact ⟨rfl, rfl, rfl, rfl, rfl⟩

/-- No action shows a hint. -/
theorem Step.noHint (h : s.Step a s' rs) : ∀ r ∈ rs, r.isHint = false := by
  intro r hr
  cases h with
  | pings _ _ _ _ => rw [List.mem_singleton.1 hr]; rfl
  | halts _ _ _ => rw [List.mem_singleton.1 hr]; rfl
  | closes _ _ => rw [List.mem_singleton.1 hr]; rfl
  | _ => cases hr

theorem Took.continues (h : s.Took m s' rs) :
    s.Continues (if m.wipes then [] else s.transcript) s' := by
  cases h with
  | refused keeps => exact ⟨rfl, rfl, rfl, rfl, by rw [keeps, if_neg Bool.false_ne_true]⟩
  | plain meant step =>
    subst meant
    exact step.continues
  | privileged meant step =>
    subst meant
    obtain ⟨uid, history, cursor, hints, transcript⟩ := step.continues
    exact ⟨uid, history, cursor, hints, transcript⟩

/-- No line shows a hint among what it sends. -/
theorem Took.noHint (h : s.Took m s' rs) : ∀ r ∈ rs, r.isHint = false := by
  cases h with
  | refused _ => exact List.forall_mem_nil _
  | plain _ step => exact step.noHint
  | privileged _ step => exact step.noHint

end Session

end NetLab
