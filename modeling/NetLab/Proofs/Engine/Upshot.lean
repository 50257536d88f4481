import NetLab.Proofs.Console.Terminal
import NetLab.Proofs.Engine.Meaning

set_option autoImplicit false

/-!
# What a line comes to

What a line comes to in an open session is settled by the time, the network and the session: a
reply, the network and the session afterwards, and the notices that are sent (`Session.upshot`).
The engine takes this over and looks at nothing else (`Engine.execute_of_open`).  So whatever is
said of lines beside one another, or of the order in which they are given, is said of upshots.
-/

namespace NetLab

/-- Tell a listener of notices in order. -/
def Listener.hearAll (l : Listener) (ns : List Notice) : Listener := ns.foldl Listener.hear l

@[simp] theorem Listener.hearAll_nil (l : Listener) : l.hearAll [] = l := rfl

theorem Listener.hearAll_append (l : Listener) (ns ms : List Notice) :
    l.hearAll (ns ++ ms) = (l.hearAll ns).hearAll ms := List.foldl_append

/-! ## Looking at a session -/

namespace Session

/-- The lines in which the waiting hints are shown. -/
def hintLines (s : Session) : List String := s.hints.map (Engine.hintMark ++ ·)

/-- What is told when the waiting hints are shown. -/
def hintNotices (s : Session) : List Notice := s.hints.map fun t => ⟨s.uid, .hint t⟩

/-- The session with no hint waiting. -/
def dropHints (s : Session) : Session := { s with hints := [] }

/-- The session with its waiting hints shown. -/
def showHints (s : Session) : Session := s.dropHints.print s.hintLines

/-- A boot of the device is due. -/
def due (s : Session) (clock : Double) : Bool := s.deadline.any (·.le clock)

/-- The session once a boot that is due is finished. -/
def woken (s : Session) (clock : Double) : Session := if s.due clock then s.boot else s

/-- The session as it is found when it is looked at. -/
def polled (s : Session) (clock : Double) : Session := (s.woken clock).showHints

variable {s : Session} {clock : Double}

@[simp] theorem woken_uid : (s.woken clock).uid = s.uid := by
  rw [woken]
  split <;> rfl

@[simp] theorem woken_hints : (s.woken clock).hints = s.hints := by
  rw [woken]
  split <;> rfl

@[simp] theorem woken_closed : (s.woken clock).closed = s.closed := by
  rw [woken]
  split <;> rfl

@[simp] theorem woken_hintNotices : (s.woken clock).hintNotices = s.hintNotices := by
  rw [hintNotices, woken_uid, woken_hints]
  rfl

theorem woken_of_not_due (h : s.due clock = false) : s.woken clock = s := by
  rw [woken, h, if_neg Bool.false_ne_true]

@[simp] theorem polled_uid : (s.polled clock).uid = s.uid := woken_uid

@[simp] theorem polled_closed : (s.polled clock).closed = s.closed := woken_closed

theorem polled_transcript :
    (s.polled clock).transcript = (s.woken clock).transcript ++ s.hintLines := by
  rw [polled, showHints, hintLines, woken_hints]
  rfl

@[simp] theorem print_nil (s : Session) : s.print [] = s := by
  rw [print, List.append_nil]

/-- A boot that is due is finished once. -/
theorem due_woken : (s.woken clock).due clock = false := by
  rw [woken]
  split
  · rfl
  · next h => simpa using h

/-- A session that was looked at just now is found as it is. -/
theorem polled_polled : (s.polled clock).polled clock = s.polled clock := by
  have notDue : (s.polled clock).due clock = false := due_woken
  have shown : (s.polled clock).showHints = (s.polled clock).print [] := rfl
  rw [polled, woken_of_not_due notDue, shown, print_nil]

/-! ## Outcomes of lines -/

/-- The reply to a line that printed this and did not end the session. -/
def reply (s : Session) (output : String) : Reply :=
  { output, prompt := if s.booting then "" else s.prompt }

/-- What is told of the output of a line. -/
def outputNotices (s : Session) (line output : String) : List Notice :=
  if output = "" then [] else [⟨s.uid, .output line output⟩]

end Session

/-- The lines of the output, as they are shown on the screen.  What ends a session is not shown. -/
def Reply.lines (r : Reply) : List String :=
  if r.closed || r.output = "" then [] else Text.lines r.output

/-- The lines that the answer to a line shows on the screen.  A fault shows none. -/
def answerLines : Except Fault Reply → List String
  | .ok r => r.lines
  | .error _ => []

/-- What a line comes to in an open session. -/
structure Upshot where
  reply : Except Fault Reply
  network : Network
  /-- the session before the output is shown on its screen -/
  session : Session
  /-- what is told, oldest first -/
  notices : List Notice

namespace Upshot

/-- The session with the output on its screen. -/
def final (u : Upshot) : Session := u.session.print (answerLines u.reply)

/-- The question that the line puts to the advisor: what was typed, and the error it gave. -/
def questions (u : Upshot) (id : Nat) (line : String) : List Question :=
  match u.reply with
  | .ok r => if isErrorOutput r.output then [⟨id, line, r.output⟩] else []
  | .error _ => []

/-- The upshot where these notices went before. -/
def after (u : Upshot) (ns : List Notice) : Upshot := { u with notices := ns ++ u.notices }

end Upshot

/-- What the outcome of a line comes to, in a session in which it was typed. -/
def Outcome.upshot (typed : Session) (line : String) : Outcome → Upshot
  | .failed f c => ⟨.error f, c.network, c.session, c.notices⟩
  | .refused r c =>
    ⟨.ok (c.session.reply r.message), c.network, c.session,
      c.notices ++ c.session.outputNotices line r.message⟩
  | .done output c =>
    if c.session.closed then
      ⟨.ok { output, closed := true }, c.network, c.session,
        c.notices ++ [⟨typed.uid, .output line output⟩]⟩
    else
      ⟨.ok (c.session.reply output), c.network, c.session,
        c.notices ++ c.session.outputNotices line output⟩

/-- What a line with no blanks around it comes to in a session that is open and was looked at. -/
def Session.taking (t : Timing) (n : Network) (p : Session) (line : String) : Upshot :=
  if p.booting then ⟨.ok { refused := true }, n, p, []⟩
  else if !p.mode.isKey then
    ⟨.error .wrongKind, n, if line = "" then p.takeBlank else p.takeLine line, []⟩
  else if line = "" then ⟨.ok { prompt := p.prompt }, n, p.enterBlank, []⟩
  else
    let typed := p.enterLine line
    let outcome := ({ network := n, session := typed } : Console).carryOut t
      (Command.meaning p.mode (Text.words line))
    (outcome.upshot typed line).after [⟨p.uid, .command line p.mode⟩]

/-- What a line with no blanks around it comes to in an open session. -/
def Session.upshot (t : Timing) (n : Network) (s : Session) (line : String) : Upshot :=
  ((s.polled t.now).taking t n line).after s.hintNotices

/-! ## What a line means to a session -/

namespace Session

/-- What a line with no blanks around it means to a session that was looked at, if it is not blank
and the session takes it. -/
def meaning? (p : Session) (line : String) : Option Command.Meaning :=
  if p.booting || !p.mode.isKey || line = "" then none
  else some (Command.meaning p.mode (Text.words line))

/-- The line leaves nothing of what stood on the screen. -/
def wipes (p : Session) (line : String) : Bool := (p.meaning? line).any (·.wipes)

/-- What the screen shows of the line itself: the prompt, and what was typed. -/
def echo (p : Session) (line : String) : List String :=
  if p.booting || !p.mode.isKey then []
  else if line = "" then [p.prompt] else [p.prompt ++ " " ++ line]

variable {t : Timing} {n : Network} {p : Session} {line : String}

/-- The ways in which a session that was looked at takes a line. -/
inductive Takes (t : Timing) (n : Network) (p : Session) (line : String) : Upshot → Prop where
  | booting (h : p.booting = true) : Takes t n p line ⟨.ok { refused := true }, n, p, []⟩
  /-- the session is in a mode that cannot be looked up -/
  | lostMode (booted : p.booting = false) (lost : p.mode.isKey = false) :
      Takes t n p line
        ⟨.error .wrongKind, n, if line = "" then p.takeBlank else p.takeLine line, []⟩
  | blank (booted : p.booting = false) (key : p.mode.isKey = true) (blank : line = "") :
      Takes t n p line ⟨.ok { prompt := p.prompt }, n, p.enterBlank, []⟩
  | command (booted : p.booting = false) (key : p.mode.isKey = true) (notBlank : line ≠ "") :
      Takes t n p line (((({ network := n, session := p.enterLine line } : Console).carryOut t
        (Command.meaning p.mode (Text.words line))).upshot (p.enterLine line) line).after
          [⟨p.uid, .command line p.mode⟩])

theorem takes (t : Timing) (n : Network) (p : Session) (line : String) :
    Takes t n p line (p.taking t n line) := by
  rw [taking]
  split
  · next h => exact .booting h
  · next booted =>
    have booted : p.booting = false := by simpa using booted
    split
    · next lost => exact .lostMode booted (by simpa using lost)
    · next key =>
      have key : p.mode.isKey = true := by simpa using key
      split
      · next blank => exact .blank booted key blank
      · next notBlank => exact .command booted key notBlank

end Session

/-- What the upshot of an outcome makes of its session, and what it tells.  Behind what the command
sent it tells of the output at most. -/
theorem Outcome.Took.upshot {o : Outcome} {meaning : Command.Meaning} {n : Network}
    {typed : Session} (h : o.Took meaning ⟨n, typed, []⟩) (line : String) :
    ∃ rs outputs, typed.Took meaning (o.upshot typed line).session rs ∧
      (o.upshot typed line).notices = rs.map (fun r => ⟨typed.uid, r⟩) ++ outputs ∧
      ∀ x ∈ outputs, ∃ output, x.report = .output line output := by
  have printed : ∀ (s : Session) (output : String), ∀ x ∈ s.outputNotices line output,
      ∃ output, x.report = .output line output := by
    intro s output x hx
    rw [Session.outputNotices] at hx
    split at hx
    · cases hx
    · exact ⟨output, by rw [List.mem_singleton.1 hx]⟩
  cases o with
  | failed f c =>
    obtain ⟨rs, took, notices⟩ := h
    exact ⟨rs, [], took, by rw [List.append_nil]; exact notices, List.forall_mem_nil _⟩
  | refused r c =>
    obtain ⟨keeps, rfl⟩ := h
    exact ⟨[], _, .refused keeps, rfl, printed typed _⟩
  | done output c =>
    obtain ⟨rs, took, notices⟩ := h
    have sent : c.notices = rs.map fun r => ⟨typed.uid, r⟩ := notices
    rw [Outcome.upshot, sent]
    split
    · refine ⟨rs, _, took, rfl, fun x hx => ?_⟩
      exact ⟨output, by rw [List.mem_singleton.1 hx]⟩
    · exact ⟨rs, _, took, rfl, printed c.session output⟩

namespace Session

variable {t : Timing} {n : Network} {p : Session} {line : String}

/-- What a line leaves of the terminal: the session is still the one of the device, no hint comes or
goes, and the screen shows the line below what stood there, or nothing if the line wipes it. -/
structure Keeps (p : Session) (line : String) (u : Upshot) : Prop where
  uid : u.session.uid = p.uid
  hints : u.session.hints = p.hints
  transcript : u.session.transcript = if p.wipes line then [] else p.transcript ++ p.echo line
  noHint : ∀ x ∈ u.notices, x.report.isHint = false

theorem taking_keeps (t : Timing) (n : Network) (p : Session) (line : String) :
    p.Keeps line (p.taking t n line) := by
  have taken := p.takes t n line
  generalize p.taking t n line = u at taken
  cases taken with
  | booting h => exact ⟨rfl, rfl, by simp [wipes, meaning?, echo, h], List.forall_mem_nil _⟩
  | lostMode booted lost =>
    refine ⟨?_, ?_, ?_, List.forall_mem_nil _⟩
    · dsimp only
      split <;> rfl
    · dsimp only
      split <;> rfl
    · dsimp only
      split <;> simp [wipes, meaning?, echo, lost, takeBlank, takeLine]
  | blank booted key blank =>
    exact ⟨rfl, rfl, by simp [wipes, meaning?, echo, booted, key, blank, enterBlank, takeBlank,
      print], List.forall_mem_nil _⟩
  | command booted key notBlank =>
    obtain ⟨rs, outputs, took, notices, printed⟩ := (Console.carryOut_took t
      ⟨n, p.enterLine line, []⟩ (Command.meaning p.mode (Text.words line))).upshot line
    have session := took.continues
    refine ⟨session.uid, session.hints, session.transcript.trans ?_, fun x hx => ?_⟩
    · simp [wipes, meaning?, echo, booted, key, notBlank, enterLine, takeLine, print]
    · rw [Upshot.after, notices] at hx
      rcases List.mem_append.1 hx with hx | hx
      · rw [List.mem_singleton.1 hx]
        rfl
      · rcases List.mem_append.1 hx with hx | hx
        · obtain ⟨r, hr, rfl⟩ := List.mem_map.1 hx
          exact took.noHint r hr
        · obtain ⟨output, output_eq⟩ := printed x hx
          rw [output_eq]
          rfl

/-- What a line makes of the network and of where the session stands is an effect of a command. -/
theorem taking_effect (t : Timing) (n : Network) (p : Session) (line : String) :
    Effect t ⟨n, p.standing⟩
      ⟨(p.taking t n line).network, (p.taking t n line).session.standing⟩ := by
  have taken := p.takes t n line
  generalize p.taking t n line = u at taken
  cases taken with
  | booting h => exact .look
  | lostMode booted lost =>
    dsimp only
    split <;> exact .look
  | blank booted key blank => exact .look
  | command booted key notBlank =>
    have sound := Console.dispatch_sound (t := t) (c := ⟨n, p.enterLine line, []⟩)
      fun w (hw : w ∈ Text.words line) => Text.ne_empty_of_mem_words hw
    have scene : Console.scene ⟨n, p.enterLine line, []⟩ = ⟨n, p.standing⟩ := rfl
    rw [Console.dispatch_eq, scene] at sound
    change Outcome.Sound t _ (Console.carryOut t ⟨n, p.enterLine line, []⟩
      (Command.meaning p.mode (Text.words line))) at sound
    cases h : Console.carryOut t ⟨n, p.enterLine line, []⟩
        (Command.meaning p.mode (Text.words line)) with
    | failed f c =>
      rw [h] at sound
      exact sound.2
    | refused r c =>
      rw [Console.refused_of_carryOut h]
      exact .look
    | done output c =>
      rw [h] at sound
      rw [Outcome.upshot]
      split
      · exact sound.2
      · exact sound.2

/-- A session that a line closes has no boot under way. -/
theorem taking_ended (hopen : p.closed = false) (h : (p.taking t n line).session.closed = true) :
    (p.taking t n line).session.deadline = none := by
  have effect := taking_effect t n p line
  rw [← Session.standing_closed] at h
  change (p.taking t n line).session.standing.deadline = none
  generalize (p.taking t n line).session.standing = st at effect h ⊢
  generalize (p.taking t n line).network = m at effect
  cases effect with
  | close _ => rfl
  | _ => exact absurd h (by simp [Session.standing, hopen])

end Session

namespace Engine

variable {e : Engine} {id : Nat} {s : Session} {line : String}

/-! ## Replacing a session -/

/-- Replace a session, and tell the listener. -/
def put (e : Engine) (id : Nat) (s : Session) (ns : List Notice) : Engine :=
  { e with sessions := e.sessions.set id s, listener := e.listener.hearAll ns }

/-- Take over what a line came to. -/
def settle (e : Engine) (id : Nat) (line : String) (u : Upshot) : Engine :=
  { e.put id u.final u.notices with
    network := u.network
    registry := e.registry.follow id u.session
    pending := e.pending ++ if e.advised then u.questions id line else [] }

theorem session?_put (hs : e.session? id = some s) (s' : Session) (ns : List Notice) :
    (e.put id s' ns).session? id = some s' :=
  List.getElem?_set_self (List.getElem?_eq_some_iff.1 hs).1

theorem session?_put_of_ne {j : Nat} (hj : j ≠ id) (s' : Session) (ns : List Notice) :
    (e.put id s' ns).session? j = e.session? j :=
  List.getElem?_set_ne hj.symm

theorem session?_settle (hs : e.session? id = some s) (line : String) (u : Upshot) :
    (e.settle id line u).session? id = some u.final := session?_put hs _ []

theorem session?_settle_of_ne {j : Nat} (hj : j ≠ id) (line : String) (u : Upshot) :
    (e.settle id line u).session? j = e.session? j := session?_put_of_ne hj _ []

/-- A session that is put back where it is changes nothing. -/
theorem put_self (hs : e.session? id = some s) : e.put id s [] = e := by
  obtain ⟨hlt, rfl⟩ := List.getElem?_eq_some_iff.1 hs
  rw [put, List.set_getElem_self, Listener.hearAll_nil]

theorem put_put (e : Engine) (id : Nat) (s s' : Session) (ns ms : List Notice) :
    (e.put id s ns).put id s' ms = e.put id s' (ns ++ ms) := by
  simp only [put, List.set_set, Listener.hearAll_append]

theorem settle_put (e : Engine) (id : Nat) (s : Session) (ns : List Notice) (line : String)
    (u : Upshot) : (e.put id s ns).settle id line u = e.settle id line (u.after ns) := by
  rw [settle, put_put]
  rfl

theorem setSession_eq_put (e : Engine) (id : Nat) (s : Session) :
    e.setSession id s = e.put id s [] := rfl

theorem tellAll_eq (e : Engine) (ns : List Notice) :
    e.tellAll ns = { e with listener := e.listener.hearAll ns } := by
  induction ns generalizing e with
  | nil => rfl
  | cons n ns ih => exact ih (e.tell n)

theorem tellAll_put (e : Engine) (id : Nat) (s : Session) (ns ms : List Notice) :
    (e.put id s ns).tellAll ms = e.put id s (ns ++ ms) := by
  rw [tellAll_eq, put, put, Listener.hearAll_append]

/-! ## Looking at a session -/

/-- An open session shows the hints that wait in it. -/
theorem drain_of_open (hs : e.session? id = some s) (hopen : s.closed = false) :
    e.drain id = (s.hintLines, e.put id s.showHints s.hintNotices) := by
  have notClosed : ¬ s.closed = true := by simp [hopen]
  rw [drain, hs]
  dsimp only
  rw [if_neg notClosed, setSession_eq_put, tellAll_put]
  rfl

/-- A closed session drops the hints that wait in it. -/
theorem drain_of_closed (hs : e.session? id = some s) (hclosed : s.closed = true) :
    e.drain id = ([], e.put id s.dropHints []) := by
  rw [drain, hs]
  exact if_pos hclosed

/-- Looking at a session, after a boot that was due. -/
theorem poll_eq_of_woken (hs : e.session? id = some s) :
    e.poll id = ((e.put id (s.woken e.clock) []).drain id).2 := by
  rw [poll, hs]
  dsimp only
  by_cases due : s.due e.clock = true
  · rw [Session.woken, if_pos due]
    exact congrArg (fun e' : Engine => (e'.drain id).2) (if_pos due)
  · rw [Session.woken, if_neg due, put_self hs]
    exact congrArg (fun e' : Engine => (e'.drain id).2) (if_neg due)

/-- An open session that is looked at finishes a boot that is due and shows its hints. -/
theorem poll_of_open (hs : e.session? id = some s) (hopen : s.closed = false) :
    e.poll id = e.put id (s.polled e.clock) s.hintNotices := by
  rw [poll_eq_of_woken hs, drain_of_open (session?_put hs _ _) (Session.woken_closed.trans hopen),
    put_put, Session.woken_hintNotices]
  rfl

/-! ## Taking over an outcome -/

theorem ask_eq (e : Engine) (q : Question) :
    e.ask q = { e with pending := e.pending ++ if e.advised then [q] else [] } := by
  rw [ask]
  split
  · rfl
  · rw [List.append_nil]

theorem accept_eq (e : Engine) (id : Nat) (c : Console) :
    e.accept id c = { e.put id c.session c.notices with
      network := c.network, registry := e.registry.follow id c.session } := by
  rw [accept, tellAll_eq]
  rfl

/-- What a line came to is taken over once, also where what its command did was taken over
before. -/
theorem settle_accept {u : Upshot} {c : Console} (h : u.session = c.session) (e : Engine) (id : Nat)
    (line : String) : (e.accept id c).settle id line u = e.settle id line (u.after c.notices) := by
  rw [← settle_put e id c.session, accept_eq, settle, settle, h]
  dsimp only [put]
  rw [Registry.follow_follow]

/-- A line that shows nothing and asks nothing leaves what it did. -/
theorem settle_of_silent {u : Upshot} (shown : answerLines u.reply = [])
    (asked : u.questions id line = []) :
    e.settle id line u = { e.put id u.session u.notices with
      network := u.network, registry := e.registry.follow id u.session } := by
  rw [settle, Upshot.final, shown, Session.print_nil, asked, ite_self, List.append_nil]
  rfl

/-- Showing the output of a line, and asking for advice on it, is settling the line, where the
session was followed already. -/
theorem finishLine_eq (hs : e.session? id = some s)
    (followed : e.registry.follow id s = e.registry) (line output : String) :
    e.finishLine id s line output = (s.reply output, e.settle id line
      ⟨.ok (s.reply output), e.network, s, s.outputNotices line output⟩) := by
  have printed : (if output = "" then e
      else (e.setSession id (s.print (Text.lines output))).tell ⟨s.uid, .output line output⟩) =
      e.put id (s.print (s.reply output).lines) (s.outputNotices line output) := by
    rw [Session.outputNotices, Reply.lines, Session.reply]
    by_cases empty : output = ""
    · simp only [empty, if_true, decide_true, Bool.or_true, Session.print_nil, put_self hs]
    · simp only [empty, if_false, decide_false, Bool.or_false, Bool.false_eq_true]
      rfl
  rw [finishLine, printed]
  refine Prod.ext rfl ?_
  generalize hu : Upshot.mk (.ok (s.reply output)) e.network s (s.outputNotices line output) = u
  have asked : u.questions id line = if isErrorOutput output then [⟨id, line, output⟩] else [] := by
    rw [← hu]
    rfl
  rw [settle, asked, ← hu]
  dsimp only
  rw [followed]
  split
  · exact ask_eq _ _
  · rw [ite_self, List.append_nil]
    rfl

/-- What a command did is taken over, and then its output is shown. -/
theorem finishLine_accept (hs : e.session? id = some s) (c : Console) (line output : String) :
    (e.accept id c).finishLine id c.session line output = (c.session.reply output,
      e.settle id line ⟨.ok (c.session.reply output), c.network, c.session,
        c.notices ++ c.session.outputNotices line output⟩) := by
  have there : (e.accept id c).session? id = some c.session := by
    rw [accept_eq]
    exact session?_put hs c.session c.notices
  have followed : (e.accept id c).registry.follow id c.session = (e.accept id c).registry := by
    rw [accept_eq]
    exact Registry.follow_follow _ _ _
  have network : (e.accept id c).network = c.network := (shows_accept e id c).network
  rw [finishLine_eq there followed, network]
  exact Prod.ext rfl (settle_accept rfl e id line)

/-- Taking over the outcome of a line is settling it.  What ends a session is no error, so nothing
is asked then. -/
theorem conclude_eq {o : Outcome} (hs : e.session? id = some s)
    (noError : ∀ output c, o = .done output c → isErrorOutput output = false) (line : String) :
    e.conclude id s line o = ((o.upshot s line).reply, e.settle id line (o.upshot s line)) := by
  cases o with
  | failed f c =>
    rw [conclude, accept_eq, settle_of_silent rfl rfl]
    rfl
  | refused r c =>
    rw [conclude, finishLine_accept hs]
    rfl
  | done output c =>
    rw [conclude, Outcome.upshot]
    split
    · have asked : Upshot.questions ⟨.ok { output, closed := true }, c.network, c.session,
          c.notices ++ [⟨s.uid, .output line output⟩]⟩ id line = [] := by
        simp [Upshot.questions, noError output c rfl]
      rw [settle_of_silent rfl asked, accept_eq, put, put, Listener.hearAll_append]
      rfl
    · rw [finishLine_accept hs]
      rfl

/-! ## Lines -/

/-- What is carried out prints no error. -/
theorem isErrorOutput_of_carryOut {t : Timing} {c c' : Console} {output : String}
    (hline : ∀ w ∈ Text.words line, w ≠ "")
    (h : c.carryOut t (Command.meaning c.session.mode (Text.words line)) = .done output c') :
    isErrorOutput output = false := by
  have sound := Console.dispatch_sound (t := t) (c := c) hline
  rw [Console.dispatch_eq, h] at sound
  exact sound.1

/-- A line that is carried out in a session that was looked at. -/
theorem carryOut_eq_settle (hs : e.session? id = some s) (line : String) :
    let u := ((({ network := e.network, session := s.enterLine line } : Console).carryOut
      ⟨e.clock, e.bootDelay⟩ (Command.meaning s.mode (Text.words line))).upshot
        (s.enterLine line) line).after [⟨s.uid, .command line s.mode⟩]
    e.carryOut id s line = (u.reply, e.settle id line u) := by
  intro u
  have typed : e.typed id s line =
      e.put id (s.enterLine line) [⟨s.uid, .command line s.mode⟩] := rfl
  rw [carryOut_eq, typed, conclude_eq (session?_put hs _ _), settle_put]
  · rfl
  · intro output c h
    exact isErrorOutput_of_carryOut (fun w => Text.ne_empty_of_mem_words) h

/-- A line that shows nothing, asks nothing and leaves the network changes the session alone, if it
leaves it open. -/
theorem settle_of_still {u : Upshot} (shown : answerLines u.reply = [])
    (asked : u.questions id line = []) (network : u.network = e.network)
    (isOpen : u.session.closed = false) : e.settle id line u = e.put id u.session u.notices := by
  rw [settle_of_silent shown asked, network, Registry.follow_of_open _ _ isOpen]
  rfl

/-- A line is taken by an open session that was looked at. -/
theorem take_eq_settle (hs : e.session? id = some s) (hopen : s.closed = false) (line : String) :
    let u := s.taking ⟨e.clock, e.bootDelay⟩ e.network line
    (if s.booting then (.ok { refused := true }, e)
      else if !s.mode.isKey then
        (.error .wrongKind, e.setSession id (if line = "" then s.takeBlank else s.takeLine line))
      else if line = "" then (.ok { prompt := s.prompt }, e.setSession id s.enterBlank)
      else e.carryOut id s line) = (u.reply, e.settle id line u) := by
  intro u
  subst u
  rw [Session.taking]
  split
  · rw [settle_of_still rfl rfl rfl hopen, put_self hs]
  · split
    · have stays : (if line = "" then s.takeBlank else s.takeLine line).closed = false := by
        split <;> exact hopen
      rw [settle_of_still rfl rfl rfl stays, setSession_eq_put]
    · split
      · rw [settle_of_still rfl rfl rfl hopen, setSession_eq_put]
      · exact carryOut_eq_settle hs line

/-- What an open session makes of a line is settled by the time, the network and the session. -/
theorem execute_of_open (hs : e.session? id = some s) (hopen : s.closed = false) (line : String) :
    let u := s.upshot ⟨e.clock, e.bootDelay⟩ e.network (Text.trim line)
    e.execute id line = (u.reply, e.settle id (Text.trim line) u) := by
  intro u
  have notClosed : ¬ (e.session? id).all (·.closed) = true := by simp [hs, hopen]
  have polled : e.poll id = e.put id (s.polled e.clock) s.hintNotices := poll_of_open hs hopen
  have there : (e.poll id).session? id = some (s.polled e.clock) := by
    rw [polled]
    exact session?_put hs (s.polled e.clock) s.hintNotices
  have taken := take_eq_settle there (Session.polled_closed.trans hopen) (Text.trim line)
  rw [network_poll, clock_poll, bootDelay_poll] at taken
  rw [execute, if_neg notClosed]
  dsimp only at taken ⊢
  rw [there]
  refine taken.trans (Prod.ext rfl ?_)
  rw [polled]
  exact settle_put ..

/-- A line looks at its session first: looking at it before the line is given changes nothing. -/
theorem execute_poll (hs : e.session? id = some s) (hopen : s.closed = false) (line : String) :
    (e.poll id).execute id line = e.execute id line := by
  have again : (s.polled e.clock).upshot ⟨e.clock, e.bootDelay⟩ e.network (Text.trim line) =
      (s.polled e.clock).taking ⟨e.clock, e.bootDelay⟩ e.network (Text.trim line) := by
    rw [Session.upshot, Session.polled_polled]
    rfl
  rw [poll_of_open hs hopen, execute_of_open hs hopen,
    execute_of_open (session?_put hs _ _) (Session.polled_closed.trans hopen), settle_put]
  refine Prod.ext ((congrArg Upshot.reply again).trans rfl) ?_
  exact congrArg (fun u : Upshot => e.settle id (Text.trim line) (u.after s.hintNotices)) again

/-- An open session is found as a poll leaves it. -/
theorem session?_poll (hs : e.session? id = some s) (hopen : s.closed = false) :
    (e.poll id).session? id = some (s.polled e.clock) := by
  rw [poll_of_open hs hopen]
  exact session?_put hs _ _

/-- To look at a session twice is to look at it once. -/
theorem poll_poll (hs : e.session? id = some s) (hopen : s.closed = false) :
    (e.poll id).poll id = e.poll id := by
  rw [poll_of_open hs hopen,
    poll_of_open (session?_put hs _ _) (Session.polled_closed.trans hopen), put_put]
  change e.put id ((s.polled e.clock).polled e.clock) (s.hintNotices ++ []) = _
  rw [Session.polled_polled, List.append_nil]

/-- What a line means to an engine is what it means to the session that was looked at. -/
theorem meaning?_of_open (hs : e.session? id = some s) (hopen : s.closed = false) (line : String) :
    e.meaning? id line = (s.polled e.clock).meaning? (Text.trim line) := by
  have there : (e.poll id).session? id = some (s.polled e.clock) := by
    rw [poll_of_open hs hopen]
    exact session?_put hs _ _
  rw [meaning?, taker?, there, Session.meaning?, Option.filter_some, Session.polled_closed, hopen]
  generalize s.polled e.clock = p
  by_cases blank : Text.trim line = ""
  · simp [blank]
  · cases p.booting <;> cases p.mode.isKey <;> simp [blank]

/-- A line leaves an empty screen if what it means does. -/
theorem wipes_of_open (hs : e.session? id = some s) (hopen : s.closed = false) (line : String) :
    (e.action? id line).any Action.wipes = (s.polled e.clock).wipes (Text.trim line) := by
  rw [action?, meaning?_of_open hs hopen, Session.wipes]
  cases (s.polled e.clock).meaning? (Text.trim line) <;> rfl

end Engine

end NetLab
