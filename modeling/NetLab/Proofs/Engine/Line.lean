import NetLab.Engine.Execute
import NetLab.Proofs.Console.Dispatch
import NetLab.Proofs.Console.Refusal

set_option autoImplicit false

/-!
# Lines in an engine

What executing a line makes of the network and of the standings of all sessions.  Showing output,
telling a listener and asking for advice change neither; a closed session does nothing at all; and
an open one is polled and then carries out one command, or refuses it (`LineResult`).
-/

namespace NetLab

/-! ## Standings of sessions -/

namespace Session

@[simp] theorem standing_enterLine (s : Session) (line : String) :
    (s.enterLine line).standing = s.standing := rfl

@[simp] theorem standing_close (s : Session) : s.close.standing = s.standing.close := rfl

@[simp] theorem standing_closed (s : Session) : s.standing.closed = s.closed := rfl

end Session

namespace Engine

variable {e : Engine} {id : Nat}

/-- Where the sessions stand, in the order in which they opened. -/
def standings (e : Engine) : List Standing := e.sessions.map Session.standing

theorem getElem?_standings : e.standings[id]? = (e.session? id).map Session.standing := by
  simp [standings, session?]

theorem getElem?_standings_of_session? {s : Session} (hs : e.session? id = some s) :
    e.standings[id]? = some s.standing := by
  rw [getElem?_standings, hs, Option.map_some]

/-! ## What is said to listeners and advisors -/

@[simp] theorem network_tell (e : Engine) (n : Notice) : (e.tell n).network = e.network := rfl

@[simp] theorem standings_tell (e : Engine) (n : Notice) : (e.tell n).standings = e.standings := rfl

/-- Whatever does not read the listener is left by telling it. -/
theorem tellAll_eq_of_tell {α : Type} {f : Engine → α} (h : ∀ e n, f (e.tell n) = f e)
    (e : Engine) (ns : List Notice) : f (e.tellAll ns) = f e := by
  induction ns generalizing e with
  | nil => rfl
  | cons n ns ih => exact (ih (e.tell n)).trans (h e n)

@[simp] theorem network_tellAll (e : Engine) (ns : List Notice) :
    (e.tellAll ns).network = e.network :=
  tellAll_eq_of_tell (fun _ _ => rfl) e ns

@[simp] theorem standings_tellAll (e : Engine) (ns : List Notice) :
    (e.tellAll ns).standings = e.standings :=
  tellAll_eq_of_tell (fun _ _ => rfl) e ns

@[simp] theorem network_ask (e : Engine) (q : Question) : (e.ask q).network = e.network := by
  rw [ask]
  split <;> rfl

@[simp] theorem standings_ask (e : Engine) (q : Question) :
    (e.ask q).standings = e.standings := by
  rw [ask]
  split <;> rfl

@[simp] theorem standings_setSession (e : Engine) (id : Nat) (s : Session) :
    (e.setSession id s).standings = e.standings.set id s.standing := by
  simp [standings, setSession, List.map_set]

@[simp] theorem network_follow (e : Engine) (id : Nat) (s : Session) :
    (e.follow id s).network = e.network := rfl

@[simp] theorem session?_follow (e : Engine) (id : Nat) (s : Session) (j : Nat) :
    (e.follow id s).session? j = e.session? j := rfl

@[simp] theorem standings_follow (e : Engine) (id : Nat) (s : Session) :
    (e.follow id s).standings = e.standings := rfl

/-- A session that is replaced by one that stands as it does leaves the standings. -/
theorem set_standing {s : Session} {st : Standing} (h : e.session? id = some s)
    (hst : st = s.standing) : e.standings.set id st = e.standings := by
  have hget : e.standings[id]? = some st := by rw [hst, getElem?_standings_of_session? h]
  obtain ⟨hlt, heq⟩ := List.getElem?_eq_some_iff.1 hget
  rw [← heq, List.set_getElem_self]

/-! ## Waiting hints and due boots -/

/-- What a session shows of its waiting hints reaches neither the network nor the clock. -/
theorem drain_eq_setSession (e : Engine) (id : Nat) :
    (e.drain id).2 = e ∨ ∃ s s' ns, e.session? id = some s ∧ s'.standing = s.standing ∧
      (e.drain id).2 = (e.setSession id s').tellAll ns := by
  rw [drain]
  split
  · exact Or.inl rfl
  · next s hs =>
    split
    · exact Or.inr ⟨s, { s with hints := [] }, [], hs, rfl, rfl⟩
    · exact Or.inr ⟨s, { s with hints := [] }.print (s.hints.map (hintMark ++ ·)),
        s.hints.map fun t => ⟨s.uid, .hint t⟩, hs, rfl, rfl⟩

/-- Whatever reads neither the listener nor the sessions is left by showing hints. -/
theorem drain_eq_of_setSession {α : Type} {f : Engine → α} (tell : ∀ e n, f (e.tell n) = f e)
    (set : ∀ e id s, f (e.setSession id s) = f e) (e : Engine) (id : Nat) :
    f (e.drain id).2 = f e := by
  obtain h | ⟨s, s', ns, _, _, h⟩ := drain_eq_setSession e id
  · rw [h]
  · rw [h, tellAll_eq_of_tell tell, set]

@[simp] theorem network_drain (e : Engine) (id : Nat) : (e.drain id).2.network = e.network :=
  drain_eq_of_setSession (fun _ _ => rfl) (fun _ _ _ => rfl) e id

@[simp] theorem standings_drain (e : Engine) (id : Nat) :
    (e.drain id).2.standings = e.standings := by
  obtain h | ⟨s, s', ns, hs, hstanding, h⟩ := drain_eq_setSession e id
  · rw [h]
  · rw [h, standings_tellAll, standings_setSession, set_standing hs hstanding]

/-- Where a session stands when it is looked at: a boot that is due is finished. -/
def pollStanding (clock : Double) (s : Standing) : Standing :=
  if s.deadline.any (·.le clock) then s.boot else s

@[simp] theorem closed_pollStanding (clock : Double) (s : Standing) :
    (pollStanding clock s).closed = s.closed := by
  rw [pollStanding]
  split <;> rfl

/-- Looking at a session finishes a boot that is due, and shows the hints that wait. -/
theorem poll_eq_drain {s : Session} (h : e.session? id = some s) :
    ∃ s', s'.standing = pollStanding e.clock s.standing ∧
      (e.poll id) = ((e.setSession id s').drain id).2 := by
  have keep : e.setSession id s = e := by
    obtain ⟨hlt, heq⟩ := List.getElem?_eq_some_iff.1 h
    rw [setSession, ← heq, List.set_getElem_self]
  rw [poll, h]
  by_cases due : s.deadline.any (·.le e.clock) = true
  · refine ⟨s.boot, (if_pos due).symm, ?_⟩
    simp only [due, if_true]
  · refine ⟨s, (if_neg due).symm, ?_⟩
    simp only [due, Bool.false_eq_true, if_false, keep]

theorem poll_of_none (h : e.session? id = none) : e.poll id = e := by
  rw [poll, h]

/-- Whatever reads neither the listener nor the sessions is left by looking at a session. -/
theorem poll_eq_of_setSession {α : Type} {f : Engine → α} (tell : ∀ e n, f (e.tell n) = f e)
    (set : ∀ e id s, f (e.setSession id s) = f e) (e : Engine) (id : Nat) :
    f (e.poll id) = f e := by
  cases h : e.session? id with
  | none => rw [poll_of_none h]
  | some s =>
    obtain ⟨s', _, hpoll⟩ := poll_eq_drain h
    rw [hpoll, drain_eq_of_setSession tell set, set]

@[simp] theorem network_poll (e : Engine) (id : Nat) : (e.poll id).network = e.network :=
  poll_eq_of_setSession (fun _ _ => rfl) (fun _ _ _ => rfl) e id

@[simp] theorem clock_poll (e : Engine) (id : Nat) : (e.poll id).clock = e.clock :=
  poll_eq_of_setSession (fun _ _ => rfl) (fun _ _ _ => rfl) e id

@[simp] theorem bootDelay_poll (e : Engine) (id : Nat) : (e.poll id).bootDelay = e.bootDelay :=
  poll_eq_of_setSession (fun _ _ => rfl) (fun _ _ _ => rfl) e id

theorem standings_poll {s : Session} (h : e.session? id = some s) :
    (e.poll id).standings = e.standings.set id (pollStanding e.clock s.standing) := by
  obtain ⟨s', hstanding, hpoll⟩ := poll_eq_drain h
  rw [hpoll, standings_drain, standings_setSession, hstanding]

/-- After it was polled, a session stands as polling makes it stand. -/
theorem getElem?_polled {s : Session} (hs : e.session? id = some s) :
    (e.standings.set id (pollStanding e.clock s.standing))[id]? =
      some (pollStanding e.clock s.standing) := by
  have hget : e.standings[id]? = some s.standing := getElem?_standings_of_session? hs
  rw [List.getElem?_set_self (List.getElem?_eq_some_iff.1 hget).1]

theorem standing_of_poll {s₀ s : Session} (hs₀ : e.session? id = some s₀)
    (hs : (e.poll id).session? id = some s) : s.standing = pollStanding e.clock s₀.standing := by
  have hget : (e.poll id).standings[id]? = some s.standing := getElem?_standings_of_session? hs
  rw [standings_poll hs₀, getElem?_polled hs₀] at hget
  exact (Option.some.inj hget).symm

/-- Polling a session leaves it open, or closed. -/
theorem closed_of_poll {s₀ s : Session} (hs₀ : e.session? id = some s₀)
    (hs : (e.poll id).session? id = some s) : s.closed = s₀.closed := by
  rw [← Session.standing_closed, standing_of_poll hs₀ hs, closed_pollStanding,
    Session.standing_closed]

/-! ## Lines -/

/-- What becomes of a line in an open session that has been polled: nothing, a refusal, or an effect
of one command. -/
inductive LineResult (t : Timing) (s : Scene) : Except Fault Reply → Scene → Prop where
  /-- the line is blank, or the device is booting -/
  | idle {reply : Reply} (silent : isErrorOutput reply.output = false) :
      LineResult t s (.ok reply) s
  /-- the session is in a mode that cannot be looked up -/
  | lostMode : LineResult t s (.error .wrongKind) s
  | refused {reply : Reply} {r : Refusal} (output : reply.output = r.message) :
      LineResult t s (.ok reply) s
  | done {reply : Reply} {s' : Scene} (noError : isErrorOutput reply.output = false)
      (effect : Effect t s s') : LineResult t s (.ok reply) s'
  | failed {f : Fault} {s' : Scene} (explained : s.Explains f) (effect : Effect t s s') :
      LineResult t s (.error f) s'

/-- Whatever becomes of a line, the scene is changed by an effect of a command at most. -/
theorem LineResult.effect {t : Timing} {s s' : Scene} {out : Except Fault Reply}
    (h : LineResult t s out s') : Effect t s s' := by
  cases h with
  | idle _ => exact .look
  | lostMode => exact .look
  | refused _ => exact .look
  | done _ effect => exact effect
  | failed _ effect => exact effect

/-- The engine is at a scene of one of its sessions, and the other sessions stand as they are
listed. -/
structure Shows (e : Engine) (others : List Standing) (id : Nat) (s : Scene) : Prop where
  network : e.network = s.network
  standings : e.standings = others.set id s.standing

theorem shows_accept (e : Engine) (id : Nat) (c : Console) :
    (e.accept id c).Shows e.standings id c.scene where
  network := by simp [accept, setSession]
  standings := by
    rw [accept, standings_tellAll, standings_follow, standings_setSession]
    rfl

/-- At a scene whose session is closed, the session is closed. -/
theorem Shows.all_closed {others : List Standing} {s : Scene} (h : e.Shows others id s)
    (closed : s.standing.closed = true) : (e.session? id).all (·.closed) = true := by
  cases hsession : e.session? id with
  | none => rfl
  | some t =>
    have standing := getElem?_standings_of_session? hsession
    have there : id < others.length := by
      simpa [h.standings] using (List.getElem?_eq_some_iff.1 standing).1
    rw [h.standings, List.getElem?_set_self there] at standing
    rw [Option.all_some, ← Session.standing_closed, ← Option.some.inj standing]
    exact closed

theorem Shows.tell {others : List Standing} {s : Scene} (h : e.Shows others id s) (n : Notice) :
    (e.tell n).Shows others id s :=
  ⟨h.network, h.standings⟩

theorem Shows.setSession {others : List Standing} {s : Scene} (h : e.Shows others id s)
    (session : Session) (hs : session.standing = s.standing) :
    (e.setSession id session).Shows others id s where
  network := h.network
  standings := by rw [standings_setSession, h.standings, hs, List.set_set]

/-- Printing the output of a line and asking for advice on it leave the scene. -/
theorem Shows.finishLine {others : List Standing} {s : Scene} {session : Session}
    (h : e.Shows others id s) (hs : session.standing = s.standing) (line output : String) :
    (e.finishLine id session line output).2.Shows others id s := by
  have printed : (if output = "" then e
      else (e.setSession id (session.print (Text.lines output))).tell
        ⟨session.uid, .output line output⟩).Shows others id s := by
    split
    · exact h
    · exact (h.setSession (session.print (Text.lines output)) hs).tell _
  rw [Engine.finishLine]
  dsimp only
  split
  · exact ⟨by rw [network_ask]; exact printed.network,
      by rw [standings_ask]; exact printed.standings⟩
  · exact printed

/-- A line that is not blank comes to a refusal or to an effect. -/
theorem carryOut_result (e : Engine) (id : Nat) (s : Session) (line : String) :
    ∃ s', LineResult ⟨e.clock, e.bootDelay⟩ ⟨e.network, s.standing⟩ (e.carryOut id s line).1 s' ∧
      (e.carryOut id s line).2.Shows e.standings id s' := by
  rw [carryOut]
  generalize htyped : s.enterLine line = typed
  have hst : typed.standing = s.standing := by rw [← htyped, Session.standing_enterLine]
  dsimp only
  generalize hnext : (e.setSession id typed).tell ⟨s.uid, .command line s.mode⟩ = next
  have shown : next.Shows e.standings id ⟨e.network, s.standing⟩ := by
    rw [← hnext]
    exact Shows.tell ⟨rfl, by rw [standings_setSession, hst]⟩ _
  have hscene : (next.console typed).scene = ⟨e.network, s.standing⟩ := by
    have hn : next.network = e.network := shown.network
    rw [← hst, ← hn]
    rfl
  have htime : (⟨next.clock, next.bootDelay⟩ : Timing) = ⟨e.clock, e.bootDelay⟩ := by
    rw [← hnext]
    rfl
  have sound : ((next.console typed).dispatch ⟨next.clock, next.bootDelay⟩
      (Text.words line)).Sound ⟨e.clock, e.bootDelay⟩ ⟨e.network, s.standing⟩ := by
    rw [htime, ← hscene]
    exact Console.dispatch_sound fun w hw => Text.ne_empty_of_mem_words hw
  have accepted : ∀ c : Console, (next.accept id c).Shows e.standings id c.scene := by
    intro c
    have h := shows_accept next id c
    exact ⟨h.network, by rw [h.standings, shown.standings, List.set_set]⟩
  cases hout : (next.console typed).dispatch ⟨next.clock, next.bootDelay⟩ (Text.words line) with
  | failed f c =>
    rw [hout] at sound
    exact ⟨c.scene, .failed sound.1 sound.2, accepted c⟩
  | refused r c =>
    obtain rfl := Console.refused_of_dispatch hout
    have kept := accepted (next.console typed)
    rw [hscene] at kept
    exact ⟨_, .refused rfl, kept.finishLine hst line r.message⟩
  | done output c =>
    rw [hout] at sound
    dsimp only
    split
    · exact ⟨c.scene, .done sound.1 sound.2, (accepted c).tell _⟩
    · exact ⟨c.scene, .done sound.1 sound.2, (accepted c).finishLine rfl line output⟩

/-- A session is closed or not there, or it is open. -/
theorem closed_or_open (e : Engine) (id : Nat) :
    (e.session? id).all (·.closed) = true ∨ ∃ s, e.session? id = some s ∧ s.closed = false := by
  cases hs : e.session? id with
  | none => exact Or.inl rfl
  | some s =>
    cases hc : s.closed with
    | true => exact Or.inl hc
    | false => exact Or.inr ⟨s, rfl, hc⟩

/-- A closed session, or one that is not there, takes no line. -/
theorem execute_of_closed {line : String} (h : (e.session? id).all (·.closed) = true) :
    e.execute id line = (.ok { closed := true }, e) := by
  rw [execute, if_pos h]

/-- A line in an open session: the session is polled, and then the line comes to nothing, to a
refusal or to an effect. -/
theorem execute_result {s : Session} (line : String) (hs : e.session? id = some s)
    (hopen : s.closed = false) :
    ∃ s', LineResult ⟨e.clock, e.bootDelay⟩ ⟨e.network, pollStanding e.clock s.standing⟩
        (e.execute id line).1 s' ∧
      (e.execute id line).2.Shows e.standings id s' := by
  have hnot : ¬ (e.session? id).all (·.closed) = true := by simp [hs, hopen]
  have hpoll : (e.poll id).standings = e.standings.set id (pollStanding e.clock s.standing) :=
    standings_poll hs
  have hget : (e.poll id).standings[id]? = some (pollStanding e.clock s.standing) := by
    rw [hpoll, getElem?_polled hs]
  rw [getElem?_standings] at hget
  obtain ⟨p, hp, hstanding⟩ := Option.map_eq_some_iff.1 hget
  have shown : (e.poll id).Shows e.standings id
      ⟨e.network, pollStanding e.clock s.standing⟩ := ⟨network_poll e id, hpoll⟩
  rw [execute, if_neg hnot]
  simp only [hp]
  split
  · exact ⟨_, .idle rfl, shown⟩
  · split
    · refine ⟨_, .lostMode, shown.setSession _ ?_⟩
      split <;> exact hstanding
    · split
      · exact ⟨_, .idle rfl, shown.setSession _ hstanding⟩
      · obtain ⟨s', result, hshows⟩ := carryOut_result (e.poll id) id p (Text.trim line)
        rw [network_poll, clock_poll, bootDelay_poll, hstanding] at result
        refine ⟨s', result, hshows.network, ?_⟩
        rw [hshows.standings, hpoll, List.set_set]

/-! ## Refused lines -/

/-- A line whose output is an error leaves the network, and every session, where they were after the
session was polled: its mode and selections, its host name, whether it is closed and when its device
will have booted.  This holds in every engine, and for errors from under any number of `do`s. -/
theorem execute_refused {line : String} {reply : Reply} (h : (e.execute id line).1 = .ok reply)
    (error : isErrorOutput reply.output = true) :
    (e.execute id line).2.network = (e.poll id).network ∧
      (e.execute id line).2.standings = (e.poll id).standings := by
  obtain hall | ⟨s, hs, hopen⟩ := closed_or_open e id
  · rw [execute_of_closed hall] at h
    obtain rfl := Except.ok.inj h
    cases error
  obtain ⟨s', result, shown⟩ := execute_result line hs hopen
  rw [network_poll, standings_poll hs, shown.network, shown.standings]
  rw [h] at result
  cases result with
  | idle silent =>
    rw [silent] at error
    cases error
  | refused _ => exact ⟨rfl, rfl⟩
  | done noError _ =>
    rw [noError] at error
    cases error

/-- A VLAN command two `do`s deep, in a session that is configuring a switch. -/
theorem execute_refused_under_do :
    let e : Engine :=
      { network := { Network.empty with
          devices := Roster.empty.put "S1" (Device.new "S1" .switchL2 .null .null .up) }
        sessions := [{ uid := "S1", hostname := .text "S1", place := { mode := .config } }]
        bootDelay := usualBootDelay }
    (e.execute 0 "do do vlan 5").2.network = (e.poll 0).network ∧
      (e.execute 0 "do do vlan 5").2.standings = (e.poll 0).standings := by
  intro e
  have h : (e.execute 0 "do do vlan 5").1 = .ok
      { output := "% Incomplete command. Use \"configure terminal\" first."
        prompt := "S1(config)#" } := by
    decide +kernel
  exact execute_refused h (by decide +kernel)

end Engine

end NetLab
