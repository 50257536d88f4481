import NetLab.Proofs.Engine.Reload
import NetLab.Proofs.Service.Checkpoint

set_option autoImplicit false

/-!
# How scripts end

Devices of a script boot at once, so no command of it is refused: every command finds the device
booted, and the last look at the session does too.  A script goes on until a command closes its
session, or to its end (`Service.Stops`), and what it answers with says which
(`Service.runDevice_concludes`).
-/

namespace NetLab

/-! ## Lines in a session that has booted -/

/-- A command closes a session in user mode only, and leaves it there. -/
theorem Effect.mode_of_closed {t : Timing} {s s' : Scene} (h : Effect t s s')
    (hopen : s.standing.closed = false) (closed : s'.standing.closed = true) :
    s'.standing.mode = .user := by
  cases h with
  | close mode => exact mode
  | _ => exact absurd (closed.symm.trans hopen) (by decide)

namespace Session

variable {t : Timing} {n : Network} {p : Session} {line : String} {r : Reply}

/-- A line that is answered where the device has booted is not refused, and the answer says whether
the session is closed. -/
theorem taking_replied (booted : p.booting = false) (hopen : p.closed = false)
    (h : (p.taking t n line).reply = .ok r) :
    r.refused = false ∧ (p.taking t n line).session.closed = r.closed := by
  have taken := p.takes t n line
  generalize p.taking t n line = u at taken h
  cases taken with
  | booting booting => exact absurd (booting.symm.trans booted) (by decide)
  | lostMode _ _ => cases h
  | blank _ _ _ =>
    obtain rfl := Except.ok.inj h
    exact ⟨rfl, hopen⟩
  | command _ _ _ =>
    have took := Console.carryOut_took t ⟨n, p.enterLine line, []⟩
      (Command.meaning p.mode (Text.words line))
    generalize ({ network := n, session := p.enterLine line } : Console).carryOut t
      (Command.meaning p.mode (Text.words line)) = o at h took ⊢
    cases o with
    | failed f c => cases h
    | refused why c =>
      obtain rfl := Except.ok.inj h
      obtain ⟨-, rfl⟩ := took
      exact ⟨rfl, hopen⟩
    | done output c =>
      rw [Outcome.upshot] at h ⊢
      split at h
      · next closed =>
        obtain rfl := Except.ok.inj h
        rw [if_pos closed]
        exact ⟨rfl, closed⟩
      · next stays =>
        obtain rfl := Except.ok.inj h
        rw [if_neg stays]
        exact ⟨rfl, Bool.eq_false_iff.2 stays⟩

/-- A line that closes its session leaves it in user mode, with no boot under way. -/
theorem taking_closed (hopen : p.closed = false)
    (closed : (p.taking t n line).session.closed = true) :
    (p.taking t n line).session.mode = .user ∧ (p.taking t n line).session.deadline = none :=
  ⟨(taking_effect t n p line).mode_of_closed hopen closed, taking_ended hopen closed⟩

end Session

namespace Engine

variable {clock : Nat → Double} {id k : Nat} {e next : Engine} {s : Session} {r : Reply}

/-- A session that is looked at has booted. -/
theorem Punctual.booting_polled (h : e.Punctual clock id k) (now : e.clock = clock k)
    (hs : e.session? id = some s) (hopen : s.closed = false) :
    (s.polled e.clock).booting = false := by
  obtain ⟨x, hx, settled⟩ := h.exists_polled now hs
  obtain rfl := Option.some.inj ((session?_poll hs hopen).symm.trans hx)
  change (s.polled e.clock).standing.deadline.isSome = false
  rw [settled, Standing.deadline_settled]
  rfl

/-- What a session is after a command that was answered. -/
structure Answered (e : Engine) (id : Nat) (text : String) (r : Reply) (s : Session) : Prop where
  refused : r.refused = false
  closed : s.closed = r.closed
  ends : r.closed = true → s.mode = .user ∧ s.deadline = none
  hintless : s.hints = []
  reloads : e.action? id text = some .reload → s.closed = false ∧ s.booting = true

/-- A line that is answered in an open session, where boots are due. -/
theorem Punctual.answered (h : e.Punctual clock id k) (now : e.clock = clock k)
    (hs : e.session? id = some s) (hopen : s.closed = false) {text : String}
    (executed : e.execute id text = (.ok r, next)) :
    ∃ s', next.session? id = some s' ∧ e.Answered id text r s' := by
  have booted := h.booting_polled now hs hopen
  have isOpen : (s.polled e.clock).closed = false := Session.polled_closed.trans hopen
  have taken := execute_of_open hs hopen text
  rw [executed] at taken
  obtain ⟨replied, rfl⟩ := Prod.mk.inj taken
  obtain ⟨refused, closed⟩ := Session.taking_replied booted isOpen replied.symm
  refine ⟨_, session?_settle hs _ _, refused, closed, fun ended => ?_, ?_, fun reload => ?_⟩
  · exact Session.taking_closed isOpen (closed.trans ended)
  · exact (Session.taking_keeps _ _ _ _).hints
  · rw [action?, meaning?_of_open hs hopen] at reload
    have halted :=
      Session.taking_reload (t := ⟨e.clock, e.bootDelay⟩) (n := e.network) isOpen reload
    rw [Upshot.final, Session.upshot, halted]
    exact ⟨isOpen, rfl⟩

/-- A command that is answered was read as a line. -/
theorem exists_line_of_executeValue {c : Value} (h : e.executeValue id c = (.ok r, next)) :
    ∃ text, e.execute id text = (.ok r, next) ∧ ∀ line, c.line = .ok line → line = text := by
  rw [executeValue] at h
  cases hline : c.line with
  | ok text =>
    rw [hline] at h
    exact ⟨text, h, fun line same => (Except.ok.inj same).symm⟩
  | error f =>
    rw [hline] at h
    dsimp only at h
    split at h
    · cases h
    · exact ⟨"", h, fun line same => by cases same⟩

/-- An open session is in user mode with the boot banner alone on its screen, once a boot that is
due is looked at and no hint waits. -/
theorem Punctual.polled_of_booting (h : e.Punctual clock id k) (now : e.clock = clock k)
    (hs : e.session? id = some s) (booting : s.booting = true) (hintless : s.hints = []) :
    (s.polled e.clock).mode = .user ∧
      (s.polled e.clock).transcript = [Session.bootBanner] := by
  obtain ⟨d, hd⟩ := Option.isSome_iff_exists.1 booting
  have due : s.due e.clock = true := by
    rw [Session.due, hd, now]
    exact h.due s.standing (getElem?_standings_of_session? hs) d hd k (Nat.le_refl k)
  have woken : s.woken e.clock = s.boot := if_pos due
  refine ⟨?_, ?_⟩
  · rw [Session.polled, woken]
    rfl
  · rw [Session.polled_transcript, woken, Session.hintLines, hintless]
    rfl

end Engine

namespace Service

variable {clock : Nat → Double} {id k : Nat} {e last mid next : Engine} {c : Value}
  {cs : List Value} {rs : List CommandResult} {r : Reply}

/-! ## Where a run stops -/

/-- The run goes through all commands, or stops at the first that closes the session.  The results
are those of the commands that were executed, in order. -/
inductive Stops (clock : Nat → Double) (id : Nat) (cs : List Value) (k : Nat) (e : Engine) :
    List CommandResult → Bool → Engine → Prop where
  | through {rs : List CommandResult} {last : Engine} (ran : Ran clock id cs k e rs last) :
      Stops clock id cs k e rs false last
  | closes {before after : List Value} {c : Value} {rs : List CommandResult} {r : Reply}
      {mid next : Engine} {now : Double} (split : cs = before ++ c :: after)
      (ran : Ran clock id before k e rs mid)
      (step : mid.executeValue id c = (.ok r, next)) (closed : r.closed = true) :
      Stops clock id cs k e (rs ++ [⟨c, r.output, r.refused⟩]) true { next with clock := now }

/-- A run that comes to an end stops in one of these ways. -/
theorem stops_of_runCommands (h : runCommands clock id cs k e = (.ok rs, last)) :
    ∃ closed, Stops clock id cs k e rs closed last := by
  induction cs generalizing k e rs with
  | nil =>
    obtain ⟨hrs, rfl⟩ := Prod.mk.inj h
    obtain rfl := Except.ok.inj hrs
    exact ⟨false, .through .nil⟩
  | cons c cs ih =>
    cases step : ({ e with clock := clock k } : Engine).executeValue id c with
    | mk out next =>
      cases out with
      | error f =>
        rw [runCommands_of_error step] at h
        cases h
      | ok r =>
        cases stays : r.closed with
        | true =>
          rw [runCommands_of_closed step stays] at h
          obtain ⟨hrs, rfl⟩ := Prod.mk.inj h
          obtain rfl := Except.ok.inj hrs
          exact ⟨true, .closes rfl .nil step stays⟩
        | false =>
          rw [runCommands_of_open step stays, resume] at h
          obtain ⟨hrs, hlast⟩ := Prod.mk.inj h
          obtain ⟨rest, hrest, rfl⟩ := map_eq_ok_iff.1 hrs
          obtain ⟨closed, stops⟩ := ih (Prod.ext hrest hlast)
          refine ⟨closed, ?_⟩
          cases stops with
          | through ran => exact .through (.cons step stays ran)
          | closes split ran step' closed' =>
            exact .closes (congrArg (c :: ·) split) (.cons step stays ran) step' closed'

/-- Commands that do not close the session leave it open, and none of them is refused. -/
theorem Ran.stays_open {s : Session} (h : Ran clock id cs k e rs last) (steady : Steady clock)
    (punctual : e.Punctual clock id k) (hs : e.session? id = some s) (hopen : s.closed = false) :
    (∀ x ∈ rs, x.refused = false) ∧ last.Punctual clock id (k + cs.length) ∧
      last.clock = clock (k + cs.length) ∧
      ∃ s', last.session? id = some s' ∧ s'.closed = false := by
  induction h generalizing s with
  | nil => exact ⟨List.forall_mem_nil _, punctual.at_clock _, rfl, s, hs, hopen⟩
  | @cons c cs k e next last r rs step stays _ ih =>
    obtain ⟨text, executed, -⟩ := Engine.exists_line_of_executeValue step
    obtain ⟨s', hs', answered⟩ :=
      (punctual.at_clock (clock k)).answered rfl hs hopen executed
    have later := (punctual.at_clock (clock k)).executeValue rfl steady c
    rw [step] at later
    obtain ⟨rest, punctual', now, there⟩ := ih later hs' (answered.closed.trans stays)
    rw [Nat.add_assoc, Nat.add_comm 1] at punctual' now
    exact ⟨List.forall_mem_cons.2 ⟨answered.refused, rest⟩, punctual', now, there⟩

/-! ## What is answered -/

/-- A closed session that is looked at stays in its mode. -/
theorem summary_of_closed {s : Session} (hs : last.session? id = some s) (closed : s.closed = true)
    (ended : s.deadline = none) :
    (summary id rs last).closed = true ∧ (summary id rs last).mode = s.mode := by
  have notDue : s.due last.clock = false := by
    rw [Session.due, ended]
    rfl
  have polled : (last.poll id).session? id = some s.dropHints := by
    rw [Engine.poll_eq_of_woken hs, Session.woken_of_not_due notDue, Engine.put_self hs,
      Engine.drain_of_closed hs closed]
    exact Engine.session?_put hs _ _
  rw [summary]
  dsimp only
  rw [polled, Option.getD_some]
  exact ⟨closed, rfl⟩

theorem summary_of_open {s : Session} (hs : last.session? id = some s) (hopen : s.closed = false) :
    (summary id rs last).closed = false ∧
      (summary id rs last).mode = (s.polled last.clock).mode ∧
      (summary id rs last).transcript = (s.polled last.clock).transcript := by
  have polled := Engine.session?_poll hs hopen
  rw [summary]
  dsimp only
  rw [polled, Option.getD_some]
  exact ⟨Session.polled_closed.trans hopen, rfl, rfl⟩

/-- A run whose last command restarts the device leaves its session open, in user mode and with the
boot banner alone on its screen. -/
theorem summary_of_reload {before : List Value} {rs' : List CommandResult} {s : Session}
    {text : String} (h : runCommands clock id (before ++ [c]) k e = (.ok rs, last))
    (steady : Steady clock) (punctual : e.Punctual clock id k) (hs : e.session? id = some s)
    (hopen : s.closed = false) (ran : Ran clock id before k e rs' mid) (line : c.line = .ok text)
    (reload : mid.action? id text = some .reload) :
    (summary id rs last).mode = .user ∧
      (summary id rs last).transcript = [Session.bootBanner] := by
  obtain ⟨-, due, now, s', hs', stays⟩ := ran.stays_open steady punctual hs hopen
  -- the last command is carried out at the time at which the run before it ended
  have same : ({ mid with clock := clock (k + before.length) } : Engine) = mid := by rw [← now]
  rw [ran.runCommands_append] at h
  cases step : mid.executeValue id c with
  | mk out next =>
    have step' : ({ mid with clock := clock (k + before.length) } : Engine).executeValue id c =
        (out, next) := by rw [same, step]
    cases out with
    | error f =>
      rw [runCommands_of_error step'] at h
      cases h
    | ok r =>
      obtain ⟨line', executed, read⟩ := Engine.exists_line_of_executeValue step
      obtain rfl := read text line
      obtain ⟨s'', hs'', answered⟩ := due.answered now hs' stays executed
      obtain ⟨isOpen, booting⟩ := answered.reloads reload
      rw [runCommands_of_open step' (answered.closed.symm.trans isOpen)] at h
      obtain rfl : { next with clock := clock (k + before.length + 1) } = last :=
        congrArg Prod.snd h
      -- the boot that this restart began is due at the next reading of the clock
      have later := due.executeValue now steady c
      rw [step] at later
      have ended := later.at_clock (clock (k + before.length + 1))
      have there : ({ next with clock := clock (k + before.length + 1) } : Engine).session? id =
          some s'' := hs''
      obtain ⟨-, mode, transcript⟩ := summary_of_open there isOpen
      rw [mode, transcript]
      exact ended.polled_of_booting rfl there booting answered.hintless

/-- What the answer of a script says of the end of its run. -/
structure Concludes (clock : Nat → Double) (e : Engine) (cs : List Value) (answer : Value)
    (rs : List CommandResult) (shut : Bool) : Prop where
  stops : ∃ last, Stops clock 0 cs 0 e rs shut last
  results : answer.part? "results" = some (.list (rs.map resultDocument))
  unrefused : ∀ x ∈ rs, x.refused = false
  closed : answer.part? "closed" = some (.bool shut)
  leaves : shut = true → answer.part? "mode" = some (.text "user")
  /-- a restart by the last command is over -/
  restarts : ∀ before c text rs' mid, cs = before ++ [c] → Ran clock 0 before 0 e rs' mid →
    c.line = .ok text → mid.action? 0 text = some .reload →
      answer.part? "mode" = some (.text "user") ∧
        answer.part? "transcript" = some (.texts [Session.bootBanner])

theorem part?_transcript (r : ScriptResult) :
    (scriptDocument r).part? "transcript" = some (.texts r.transcript) :=
  Value.part?_record (by simp) rfl

/-- A run in an open session, where boots are due. -/
theorem exists_concludes {s : Session} (h : runCommands clock 0 cs 0 e = (.ok rs, last))
    (steady : Steady clock) (punctual : e.Punctual clock 0 0) (hs : e.session? 0 = some s)
    (hopen : s.closed = false) :
    ∃ shut, Concludes clock e cs (scriptDocument (summary 0 rs last)) rs shut := by
  obtain ⟨results, mode, closed, -⟩ := part?_scriptDocument (summary 0 rs last)
  have restarts : ∀ before c text rs' mid, cs = before ++ [c] → Ran clock 0 before 0 e rs' mid →
      c.line = .ok text → mid.action? 0 text = some .reload →
        (scriptDocument (summary 0 rs last)).part? "mode" = some (.text "user") ∧
          (scriptDocument (summary 0 rs last)).part? "transcript" =
            some (.texts [Session.bootBanner]) := by
    rintro before c text rs' mid rfl ran line reload
    obtain ⟨user, banner⟩ :=
      summary_of_reload h steady punctual hs hopen ran line reload
    rw [mode, user, part?_transcript, banner]
    exact ⟨rfl, rfl⟩
  obtain ⟨shut, stops⟩ := stops_of_runCommands h
  cases stops with
  | through ran =>
    obtain ⟨unrefused, -, -, s', hs', stays⟩ := ran.stays_open steady punctual hs hopen
    rw [(summary_of_open hs' stays).1] at closed
    exact ⟨false, ⟨last, .through ran⟩, results, unrefused, closed, nofun, restarts⟩
  | @closes before after c rs' r mid next time split ran step shut =>
    obtain ⟨unrefused, due, now, s', hs', stays⟩ := ran.stays_open steady punctual hs hopen
    obtain ⟨text, executed, -⟩ := Engine.exists_line_of_executeValue step
    obtain ⟨s'', hs'', answered⟩ := due.answered now hs' stays executed
    obtain ⟨user, ended⟩ := answered.ends shut
    have there : ({ next with clock := time } : Engine).session? 0 = some s'' := hs''
    obtain ⟨isClosed, stands⟩ :=
      summary_of_closed there (answered.closed.trans shut) ended
    rw [isClosed] at closed
    rw [stands, user] at mode
    refine ⟨true, ⟨{ next with clock := time }, .closes split ran step shut⟩, results, ?_, closed,
      fun _ => mode, restarts⟩
    exact List.forall_mem_append.2 ⟨unrefused, List.forall_mem_singleton.2 answered.refused⟩

/-- A script refuses nothing and stops exactly where a command closes its session: the results are
those of the commands up to the first one that does, or of all commands, and the answer says so.  A
script that is closed is in user mode; and one that ends with a restart is in user mode with the
boot banner on its screen, and nothing else. -/
theorem runDevice_concludes {log : Log} {doc uid answer : Value} (steady : Steady clock)
    (answered : (runDevice clock log doc uid (.list cs)).1 = .ok answer) :
    ∃ n name d rs shut, Schema.load doc = .ok n ∧ uid.line = .ok name ∧
      n.device? name = some d ∧ Concludes clock (opened n d) cs answer rs shut := by
  obtain ⟨n, name, r, last, loaded, named, ran, rfl⟩ := runDevice_eq_ok answered
  have scripted : (runScript clock n name (.list cs)).1 = .ok r := congrArg Prod.fst ran
  obtain ⟨d, found⟩ := device_of_runScript scripted
  rw [runScript_list clock found] at scripted
  obtain ⟨rs, hrs, rfl⟩ := map_eq_ok_iff.1 scripted
  have ready := ready_opened (Schema.storable_load loaded) (Schema.typed_load loaded) found clock
  obtain ⟨shut, concludes⟩ := exists_concludes (Prod.ext hrs rfl) steady ready.punctual rfl rfl
  exact ⟨n, name, d, rs, shut, loaded, named, found, concludes⟩

/-- A switch is restarted twice, the second time from configuration mode and by the last command. -/
theorem runDevice_concludes_restarted :
    let doc : Value := .object [("devices", .list
      [.object [("id", .text "S1"), ("kind", .text "SWITCH_L2")]])]
    let clock : Nat → Double := fun _ => Double.zero
    let cs : List Value := [.text "enable", .text "reload", .text "", .text "enable",
      .text "conf t", .text "do reload"]
    ∃ answer, (runDevice clock freshLog doc (.text "S1") (.list cs)).1 = .ok answer ∧
      ∃ n name d rs shut, Schema.load doc = .ok n ∧ (Value.text "S1").line = .ok name ∧
        n.device? name = some d ∧ Concludes clock (opened n d) cs answer rs shut := by
  intro doc clock cs
  have answers : (runDevice clock freshLog doc (.text "S1") (.list cs)).1.isOk = true := by
    decide +kernel
  obtain ⟨answer, answered⟩ := isOk_iff.1 answers
  exact ⟨answer, answered, runDevice_concludes (steady_const false 0) answered⟩

end Service

end NetLab
