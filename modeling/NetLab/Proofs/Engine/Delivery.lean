import NetLab.Proofs.Engine.Lifetime

set_option autoImplicit false

/-!
# Hints are delivered once

A line that prints an error puts one question to the advisor, who may answer at any later moment.  A
tip that comes while the session that asked is open waits there, and the next look at the session
shows it: on the screen, below what stood there and above what the line itself prints, and to the
listener.  Nothing else that comes from the advisor, and nothing that comes later, reaches a screen.

Which tips wait in a session is said without looking into it: `Engine.unseen` follows the answers
and the looks of a run.
-/

namespace NetLab.Engine

variable {e : Engine} {id : Nat} {s s' : Session} {t : Turn}

/-- The questions that a turn puts to the advisor: one for a line that prints an error, with the
line as it was carried out and what it printed. -/
def asked (e : Engine) : Turn → List Question
  | .act (.line id text) =>
    match (e.execute id text).1 with
    | .ok r =>
      if e.advised && isErrorOutput r.output then [⟨id, Text.trim text, r.output⟩] else []
    | .error _ => []
  | _ => []

/-- The questions that are pending when a turn has begun: one that it answers is not pending. -/
def unanswered (e : Engine) : Turn → List Question
  | .act (.answer k _) => e.pending.eraseIdx k
  | _ => e.pending

/-- The tips that came to a session over turns, in the order in which they came, and that no turn
has looked at since.  At the start these wait already. -/
def unseen (id : Nat) : Engine → List String → List Turn → List String
  | _, waiting, [] => waiting
  | e, waiting, t :: ts => unseen id (e.turn t)
      (if t.looksAt id then [] else waiting ++ (e.arrival? id t).toList) ts

/-! ## Questions -/

theorem pending_drain (e : Engine) (id : Nat) : (e.drain id).2.pending = e.pending :=
  drain_eq_of_setSession (fun _ _ => rfl) (fun _ _ _ => rfl) e id

theorem pending_close (e : Engine) (id : Nat) : (e.close id).pending = e.pending := by
  obtain hall | ⟨s, hs, hopen⟩ := closed_or_open e id
  · rw [close_of_closed hall]
  · rw [close_eq_put hs hopen]
    rfl

theorem pending_wait (e : Engine) (id : Nat) (seconds : Double) :
    (e.turn (.wait id seconds)).pending = e.pending := by
  rw [turn, drainWithin]
  split
  · rfl
  · exact pending_drain e id

/-- A line that prints an error puts one question to the advisor, if there is one. -/
theorem pending_execute (e : Engine) (id : Nat) (text : String) :
    (e.execute id text).2.pending = e.pending ++ e.asked (.act (.line id text)) := by
  rw [asked]
  obtain hall | ⟨s, hs, hopen⟩ := closed_or_open e id
  · have silent : (e.advised && isErrorOutput "") = false := by simp [isErrorOutput]
    rw [execute_of_closed hall]
    dsimp only
    rw [silent, if_neg Bool.false_ne_true, List.append_nil]
  · rw [execute_of_open hs hopen]
    dsimp only
    generalize s.upshot ⟨e.clock, e.bootDelay⟩ e.network (Text.trim text) = u
    rw [settle, Upshot.questions]
    cases u.reply with
    | error f => simp
    | ok r => cases e.advised <;> simp

/-- What a turn makes of the questions that are pending. -/
theorem pending_turn (e : Engine) (t : Turn) :
    (e.turn t).pending = e.unanswered t ++ e.asked t := by
  cases t with
  | wait i seconds => exact (pending_wait e i seconds).trans (List.append_nil _).symm
  | recalls i back =>
    obtain ⟨sessions, recalled⟩ := exists_sessions_of_recall e i back
    rw [recalled]
    exact (List.append_nil _).symm
  | edit n => exact (List.append_nil _).symm
  | clock now => exact (List.append_nil _).symm
  | act a =>
    cases a with
    | opens uid =>
      refine Eq.trans ?_ (List.append_nil _).symm
      cases hd : e.network.device uid with
      | error f => rw [(turn_opens_of_error hd).2]; rfl
      | ok d =>
        rw [turn_opens hd]
        exact cleared_of_close (P := fun x => x.pending = e.pending) rfl (pending_close e) d.uid
    | line i text => exact pending_execute e i text
    | poll i =>
      refine Eq.trans ?_ (List.append_nil _).symm
      exact poll_eq_of_setSession (f := pending) (fun _ _ => rfl) (fun _ _ _ => rfl) e i
    | close i => exact (pending_close e i).trans (List.append_nil _).symm
    | drain i => exact (pending_drain e i).trans (List.append_nil _).symm
    | answer k a =>
      refine Eq.trans ?_ (List.append_nil _).symm
      have answered := e.brings k a
      rw [turn, act]
      generalize e.answer k a = e' at answered
      cases answered with
      | tip _ _ _ _ => rfl
      | nothing _ _ => rfl
    | pass seconds => exact (List.append_nil _).symm

/-! ## Waiting hints -/

/-- These tips wait in the session while it is open; none waited before it opened. -/
structure Awaits (e : Engine) (id : Nat) (tips : List String) : Prop where
  there : ∀ {s : Session}, e.session? id = some s → s.closed = false → s.hints = tips
  before : e.session? id = none → tips = []

/-- Tips come with answers only. -/
theorem exists_answer_of_arrival {tip : String} (h : e.arrival? id t = some tip) :
    ∃ k a, t = .act (.answer k a) := by
  cases t with
  | act a =>
    cases a with
    | answer k a => exact ⟨k, a, rfl⟩
    | _ => cases h
  | _ => cases h

/-- No tip comes to a session that is closed or not there. -/
theorem arrival?_of_all_closed (all : (e.session? id).all (·.closed) = true) (t : Turn) :
    e.arrival? id t = none := by
  by_contra some
  obtain ⟨tip, arrives⟩ := Option.ne_none_iff_exists'.1 some
  obtain ⟨k, a, rfl⟩ := exists_answer_of_arrival arrives
  obtain ⟨q, -, tip⟩ := Option.bind_eq_some_iff.1 arrives
  cases a with
  | tip text =>
    rw [tip?, Option.ite_none_right_eq_some] at tip
    exact absurd (all.symm.trans tip.1.2.2) (by decide)
  | nothing => cases tip
  | failed error => cases tip

namespace Becomes

/-- No hint waits in an open session that was looked at. -/
theorem hints_of_looks (h : Becomes e id s t s') (hopen : s.closed = false)
    (looks : t.looksAt id = true) : s'.hints = [] := by
  cases h with
  | stays elsewhere _ => exact absurd (looks.symm.trans elsewhere) (by decide)
  | receives _ arrives =>
    obtain ⟨k, a, rfl⟩ := exists_answer_of_arrival arrives
    cases looks
  | closes _ elsewhere _ => exact absurd (looks.symm.trans elsewhere) (by decide)
  | spent closed _ _ => exact absurd (closed.symm.trans hopen) (by decide)
  | recalls _ _ _ => cases looks
  | line _ text => exact (Session.taking_keeps _ _ _ _).hints
  | poll _ => rfl
  | drain _ => rfl
  | wait _ _ => rfl

/-- Where it is not looked at, a session gets the tip that comes to it, and its screen stays. -/
theorem of_elsewhere (h : Becomes e id s t s') (hopen : s.closed = false)
    (elsewhere : t.looksAt id = false) :
    s'.hints = s.hints ++ (e.arrival? id t).toList ∧ s'.transcript = s.transcript := by
  cases h with
  | stays _ none =>
    rw [none]
    exact ⟨(List.append_nil _).symm, rfl⟩
  | receives _ arrives =>
    rw [arrives]
    exact ⟨rfl, rfl⟩
  | closes _ _ none =>
    rw [none]
    exact ⟨(List.append_nil _).symm, rfl⟩
  | spent closed _ _ => exact absurd (closed.symm.trans hopen) (by decide)
  | recalls _ _ _ => exact ⟨(List.append_nil _).symm, rfl⟩
  | line _ _ => simp [Turn.looksAt] at elsewhere
  | poll _ => simp [Turn.looksAt] at elsewhere
  | drain _ => simp [Turn.looksAt] at elsewhere
  | wait _ taken => simp [Turn.looksAt, taken] at elsewhere

end Becomes

/-- A turn that looks at the session leaves no hint waiting; any other one adds what it brings. -/
theorem awaits_turn (h : e.Orderly) {tips : List String} (waits : e.Awaits id tips) (t : Turn) :
    (e.turn t).Awaits id (if t.looksAt id then [] else tips ++ (e.arrival? id t).toList) where
  there := by
    intro s' hs' hopen
    obtain ⟨s, hs, becomes⟩ | ⟨uid, d, rfl, -, hi, rfl⟩ := session?_of_turn h hs'
    · have isOpen : s.closed = false := becomes.was_open hopen
      cases looks : t.looksAt id with
      | true => exact becomes.hints_of_looks isOpen looks
      | false => exact waits.there hs isOpen ▸ (becomes.of_elsewhere isOpen looks).1
    · have none : e.session? id = none := by
        rw [hi]
        exact List.getElem?_eq_none (Nat.le_refl _)
      rw [waits.before none]
      rfl
  before := by
    intro hs'
    cases hs : e.session? id with
    | some s =>
      obtain ⟨s', hsome, -⟩ := becomes hs (h.ended hs) t
      rw [hs'] at hsome
      cases hsome
    | none =>
      rw [waits.before hs, arrival?_of_all_closed (by rw [hs]; rfl)]
      exact ite_self _

/-- Over any turns, what waits in an open session is what came to it since it was looked at last. -/
theorem awaits_turns (h : e.Orderly) {tips : List String} (waits : e.Awaits id tips)
    (ts : List Turn) : (e.turns ts).Awaits id (unseen id e tips ts) := by
  induction ts generalizing e tips with
  | nil => exact waits
  | cons t ts ih => exact ih (orderly_turn h t) (awaits_turn h waits t)

theorem awaits_of_no_session (h : e.sessions = []) (id : Nat) : e.Awaits id [] where
  there := by
    intro s hs
    rw [session?, h] at hs
    cases hs
  before _ := rfl

/-! ## What is told of hints -/

/-- Of what the listener is told in a turn, these are the hints. -/
def TellsHints (e e' : Engine) (hints : List Notice) : Prop :=
  ∃ ns, e'.listener = e.listener.hearAll ns ∧ ns.filter (·.report.isHint) = hints

/-- Nothing is told. -/
theorem tellsHints_refl {e e' : Engine} (h : e'.listener = e.listener) : e.TellsHints e' [] :=
  ⟨[], h, rfl⟩

/-- What is told is of no hint. -/
theorem tellsHints_nil {e e' : Engine} {ns : List Notice}
    (h : e'.listener = e.listener.hearAll ns) (noHint : ∀ n ∈ ns, n.report.isHint = false) :
    e.TellsHints e' [] :=
  ⟨ns, h, List.filter_eq_nil_iff.2 fun n hn => by simp [noHint n hn]⟩

/-- What is told is of the waiting hints first, and then of no hint. -/
theorem tellsHints_append {e e' : Engine} {s : Session} {ns : List Notice}
    (h : e'.listener = e.listener.hearAll (s.hintNotices ++ ns))
    (noHint : ∀ n ∈ ns, n.report.isHint = false) : e.TellsHints e' s.hintNotices := by
  refine ⟨s.hintNotices ++ ns, h, ?_⟩
  have all : s.hintNotices.filter (·.report.isHint) = s.hintNotices := by
    rw [List.filter_eq_self]
    intro n hn
    obtain ⟨tip, -, rfl⟩ := List.mem_map.1 hn
    rfl
  have none : ns.filter (·.report.isHint) = [] :=
    List.filter_eq_nil_iff.2 fun n hn => by simp [noHint n hn]
  rw [List.filter_append, all, none, List.append_nil]

theorem tellsHints_hints {e e' : Engine} {s : Session}
    (h : e'.listener = e.listener.hearAll s.hintNotices) : e.TellsHints e' s.hintNotices :=
  have told : e'.listener = e.listener.hearAll (s.hintNotices ++ []) := by
    rw [h, List.append_nil]
  tellsHints_append told (List.forall_mem_nil _)

/-- A look at an open session tells of each hint that waits there. -/
theorem tellsHints_of_looks (hs : e.session? id = some s) (hopen : s.closed = false)
    (looks : t.looksAt id = true) : e.TellsHints (e.turn t) s.hintNotices := by
  have drained : e.TellsHints (e.drain id).2 s.hintNotices := by
    rw [drain_of_open hs hopen]
    exact tellsHints_hints rfl
  cases t with
  | wait i seconds =>
    obtain ⟨rfl, taken⟩ : i = id ∧ seconds.isNegative = false := by
      simpa [Turn.looksAt] using looks
    rw [turn_wait_of_open hs hopen, taken]
    exact drained
  | recalls i back => cases looks
  | edit n => cases looks
  | clock now => cases looks
  | act a =>
    cases a with
    | line i text =>
      obtain rfl : i = id := by simpa [Turn.looksAt] using looks
      rw [turn, act, execute_of_open hs hopen]
      exact tellsHints_append rfl (Session.taking_keeps _ _ _ _).noHint
    | poll i =>
      obtain rfl : i = id := by simpa [Turn.looksAt] using looks
      rw [turn, act, poll_of_open hs hopen]
      exact tellsHints_hints rfl
    | drain i =>
      obtain rfl : i = id := by simpa [Turn.looksAt] using looks
      exact drained
    | opens uid => cases looks
    | close i => cases looks
    | answer k a => cases looks
    | pass seconds => cases looks

/-- Closing a session tells of no hint. -/
theorem exists_notices_of_close (e : Engine) (i : Nat) :
    ∃ ns, (∀ n ∈ ns, n.report.isHint = false) ∧
      (e.close i).listener = e.listener.hearAll ns := by
  obtain hall | ⟨s, hs, hopen⟩ := closed_or_open e i
  · exact ⟨[], List.forall_mem_nil _, by rw [close_of_closed hall]; rfl⟩
  · refine ⟨[⟨s.uid, .closed⟩], fun n hn => ?_, by rw [close_eq_put hs hopen]; rfl⟩
    rw [List.mem_singleton.1 hn]
    rfl

/-- Opening a session tells of no hint. -/
theorem tellsHints_opens (e : Engine) (uid : String) :
    e.TellsHints (e.turn (.act (.opens uid))) [] := by
  cases hd : e.network.device uid with
  | error f => exact tellsHints_refl (by rw [(turn_opens_of_error hd).2])
  | ok d =>
    obtain ⟨ns, noHint, told⟩ : ∃ ns, (∀ n ∈ ns, n.report.isHint = false) ∧
        ((e.sessionFor? d.uid).elim e e.close).listener = e.listener.hearAll ns := by
      cases e.sessionFor? d.uid with
      | none => exact ⟨[], List.forall_mem_nil _, rfl⟩
      | some k => exact exists_notices_of_close e k
    rw [turn_opens hd]
    refine ⟨ns ++ [⟨d.uid, .opened⟩], ?_, List.filter_eq_nil_iff.2 fun n hn => ?_⟩
    · rw [Listener.hearAll_append, ← told]
      rfl
    · rcases List.mem_append.1 hn with hn | hn
      · simp [noHint n hn]
      · rw [List.mem_singleton.1 hn]
        exact Bool.false_ne_true

/-- A turn that is given to an open session and does not look at it tells of no hint. -/
theorem tellsHints_of_given (hs : e.session? id = some s) (hopen : s.closed = false)
    (given : t.session? = some id) (elsewhere : t.looksAt id = false) :
    e.TellsHints (e.turn t) [] := by
  cases t with
  | wait i seconds =>
    obtain rfl := Option.some.inj given
    have refused : seconds.isNegative = true := by simpa [Turn.looksAt] using elsewhere
    rw [turn_wait_of_open hs hopen, refused]
    exact tellsHints_refl rfl
  | recalls i back =>
    obtain ⟨sessions, recalled⟩ := exists_sessions_of_recall e i back
    exact tellsHints_refl (by rw [recalled])
  | edit n => cases given
  | clock now => cases given
  | act a =>
    obtain ⟨i, rfl⟩ : ∃ i, a = .close i := by
      cases a with
      | close i => exact ⟨i, rfl⟩
      | opens uid => cases given
      | answer k a => cases given
      | pass seconds => cases given
      | _ =>
        obtain rfl := Option.some.inj given
        simp [Turn.looksAt] at elsewhere
    obtain ⟨ns, noHint, told⟩ := exists_notices_of_close e i
    exact tellsHints_nil told noHint

/-- A turn that looks at no open session tells of no hint. -/
theorem tellsHints_of_elsewhere (h : e.Orderly)
    (elsewhere : ∀ id s, e.session? id = some s → s.closed = false → t.looksAt id = false) :
    e.TellsHints (e.turn t) [] := by
  cases given : t.session? with
  | some i =>
    cases hs : e.session? i with
    | none => exact tellsHints_refl (by rw [turn_of_none hs given])
    | some s =>
      cases hc : s.closed with
      | true =>
        obtain ⟨hints, cursor, same⟩ := turn_of_closed hs hc (h.ended hs hc) given
        exact tellsHints_refl (by rw [same])
      | false => exact tellsHints_of_given hs hc given (elsewhere i s hs hc)
  | none =>
    cases t with
    | wait i seconds => cases given
    | recalls i back => cases given
    | edit n => exact tellsHints_refl rfl
    | clock now => exact tellsHints_refl rfl
    | act a =>
      cases a with
      | opens uid => exact tellsHints_opens e uid
      | answer k a =>
        have answered := e.brings k a
        rw [turn, act]
        generalize e.answer k a = e' at answered
        cases answered with
        | tip _ _ _ _ => exact tellsHints_refl rfl
        | nothing _ failures =>
          refine tellsHints_nil rfl fun n hn => ?_
          obtain ⟨line, error, h⟩ := failures n hn
          rw [h]
          rfl
      | pass seconds => exact tellsHints_refl rfl
      | line i text => cases given
      | poll i => cases given
      | close i => cases given
      | drain i => cases given

/-! ## What is shown -/

/-- An answer that brings no tip changes no session. -/
theorem sessions_answer {k : Nat} {a : Advice}
    (h : ∀ id, e.arrival? id (.act (.answer k a)) = none) :
    (e.answer k a).sessions = e.sessions := by
  have answered := e.brings k a
  generalize e.answer k a = e' at answered
  cases answered with
  | @tip i s tip there isOpen arrives only =>
    rw [h i] at arrives
    cases arrives
  | nothing none _ => rfl

/-- A failure, no answer and a blank tip bring nothing. -/
theorem arrival?_of_blank {k : Nat} {a : Advice}
    (blank : ∀ text, a = .tip text → Text.trim text = "") (id : Nat) :
    e.arrival? id (.act (.answer k a)) = none := by
  rw [arrival?, Option.bind_eq_none_iff]
  intro q _
  cases a with
  | tip text => exact if_neg fun h => h.2.1 (blank text rfl)
  | nothing => rfl
  | failed error => rfl

/-- An answer to a session that is closed by then brings nothing. -/
theorem arrival?_of_late {k : Nat} {a : Advice} {q : Question} (hq : e.pending[k]? = some q)
    (closed : (e.session? q.session).all (·.closed) = true) (id : Nat) :
    e.arrival? id (.act (.answer k a)) = none := by
  by_cases hid : id = q.session
  · subst hid
    exact arrival?_of_all_closed closed _
  · rw [arrival?, hq]
    exact tip?_of_ne (Ne.symm hid) a

/-- A closed session, and one that a turn does not look at, keep their screens. -/
theorem transcript_of_elsewhere (h : e.Orderly) (hs : e.session? id = some s)
    (unseen : s.closed = true ∨ t.looksAt id = false) :
    ∃ s', (e.turn t).session? id = some s' ∧ s'.transcript = s.transcript := by
  obtain ⟨s', hs', becomes⟩ := becomes hs (h.ended hs) t
  refine ⟨s', hs', ?_⟩
  cases hc : s.closed with
  | true =>
    obtain ⟨hints, cursor, rfl⟩ := becomes.of_closed hc
    rfl
  | false =>
    have elsewhere : t.looksAt id = false := by simpa [hc] using unseen
    exact (becomes.of_elsewhere hc elsewhere).2

/-- What an open session shows once a line was given to it: its hints stand below what was on the
screen and above the line, unless the line wipes them away. -/
theorem transcript_execute (hs : e.session? id = some s) (hopen : s.closed = false)
    (text : String) : ∃ s', (e.execute id text).2.session? id = some s' ∧
      s'.transcript = (if (e.action? id text).any Action.wipes then []
        else (s.woken e.clock).transcript ++ s.hintLines ++
          (s.polled e.clock).echo (Text.trim text)) ++ answerLines (e.execute id text).1 := by
  rw [wipes_of_open hs hopen, execute_of_open hs hopen, ← Session.polled_transcript]
  refine ⟨_, session?_put hs _ [], ?_⟩
  have keeps := Session.taking_keeps ⟨e.clock, e.bootDelay⟩ e.network (s.polled e.clock)
    (Text.trim text)
  exact congrArg (· ++ _) keeps.transcript

/-- How hints come to be shown, where these tips have come to the sessions and were not looked at
since. -/
structure Delivers (e : Engine) (tips : Nat → List String) : Prop where
  /-- a line that prints an error asks once, an answer takes its question away, and nothing else
  asks -/
  asks : ∀ t, (e.turn t).pending = e.unanswered t ++ e.asked t
  /-- a poll shows each tip once, in the order in which they came, below what the screen shows once
  a boot that is due is finished -/
  polls : ∀ id s, e.session? id = some s → s.closed = false →
    ∃ s', (e.poll id).session? id = some s' ∧
      s'.transcript = (s.woken e.clock).transcript ++ (tips id).map (hintMark ++ ·)
  /-- a line polls first, whether it is then refused or carried out -/
  first : ∀ id s text, e.session? id = some s → s.closed = false →
    (e.poll id).execute id text = e.execute id text
  /-- after a line the tips are there, unless the line wiped the screen, and nothing else is but the
  line and its output -/
  lines : ∀ id s text, e.session? id = some s → s.closed = false →
    ∃ s', (e.execute id text).2.session? id = some s' ∧
      s'.transcript = (if (e.action? id text).any Action.wipes then []
        else (s.woken e.clock).transcript ++ (tips id).map (hintMark ++ ·) ++
          (s.polled e.clock).echo (Text.trim text)) ++ answerLines (e.execute id text).1
  /-- showing the hints does so at once, and a wait that is not refused does the same -/
  drains : ∀ id s, e.session? id = some s → s.closed = false →
    (e.drain id).1 = (tips id).map (hintMark ++ ·) ∧
      (∃ s', (e.drain id).2.session? id = some s' ∧
        s'.transcript = s.transcript ++ (tips id).map (hintMark ++ ·)) ∧
      ∀ seconds : Double, seconds.isNegative = false →
        e.drainWithin id seconds = (.ok (e.drain id).1, (e.drain id).2)
  /-- closed sessions, and those that a turn does not look at, keep their screens -/
  keeps : ∀ t id s, e.session? id = some s → (s.closed = true ∨ t.looksAt id = false) →
    ∃ s', (e.turn t).session? id = some s' ∧ s'.transcript = s.transcript
  /-- with a look at an open session the listener is told of each of its tips once -/
  tells : ∀ t id s, e.session? id = some s → s.closed = false → t.looksAt id = true →
    e.TellsHints (e.turn t) ((tips id).map fun tip => ⟨s.uid, .hint tip⟩)
  /-- otherwise it is told of none -/
  silent : ∀ t, (∀ id s, e.session? id = some s → s.closed = false → t.looksAt id = false) →
    e.TellsHints (e.turn t) []
  /-- a failure, no answer and a blank tip change no session -/
  empty : ∀ k a, (∀ text, a = .tip text → Text.trim text = "") →
    (e.answer k a).sessions = e.sessions
  /-- nor does an answer to a session that is closed by then -/
  late : ∀ k a q, e.pending[k]? = some q → (e.session? q.session).all (·.closed) = true →
    (e.answer k a).sessions = e.sessions

/-- However turns follow one another from an engine without sessions, the hints that are shown next
in a session are the tips that came to it and that no turn has looked at since. -/
theorem delivers_of_turns (h : e.sessions = []) (ts : List Turn) :
    (e.turns ts).Delivers fun id => unseen id e [] ts := by
  have orderly : (e.turns ts).Orderly := orderly_turns (orderly_of_no_session h) ts
  have waits : ∀ id s, (e.turns ts).session? id = some s → s.closed = false →
      s.hints = unseen id e [] ts := fun id s =>
    (awaits_turns (orderly_of_no_session h) (awaits_of_no_session h id) ts).there
  generalize e.turns ts = e' at orderly waits
  refine { asks := pending_turn e', polls := ?_, first := ?_, lines := ?_, drains := ?_,
           keeps := ?_, tells := ?_, silent := ?_, empty := ?_, late := ?_ }
  · intro id s hs hopen
    refine ⟨s.polled e'.clock, ?_, ?_⟩
    · rw [poll_of_open hs hopen]
      exact session?_put hs _ _
    · rw [Session.polled_transcript, Session.hintLines, waits id s hs hopen]
  · exact fun id s text hs hopen => execute_poll hs hopen text
  · intro id s text hs hopen
    rw [← waits id s hs hopen]
    exact transcript_execute hs hopen text
  · intro id s hs hopen
    rw [← waits id s hs hopen, drain_of_open hs hopen]
    refine ⟨rfl, ⟨s.showHints, session?_put hs _ _, rfl⟩, fun seconds taken => ?_⟩
    rw [drainWithin, taken, drain_of_open hs hopen]
    rfl
  · exact fun t id s hs unseen => transcript_of_elsewhere orderly hs unseen
  · intro t id s hs hopen looks
    rw [← waits id s hs hopen]
    exact tellsHints_of_looks hs hopen looks
  · exact fun t elsewhere => tellsHints_of_elsewhere orderly elsewhere
  · exact fun k a blank => sessions_answer (arrival?_of_blank blank)
  · exact fun k a q hq closed => sessions_answer (arrival?_of_late hq closed)

/-- Two sessions ask; the second is answered first, the first after it closed. -/
theorem delivers_of_turns_out_of_order :
    let e : Engine :=
      { network := Network.build [.addDevice { uid := "S1", kind := .text "SWITCH_L2" },
          .addDevice { uid := "S2", kind := .text "SWITCH_L2" }]
        bootDelay := usualBootDelay
        advised := true }
    let ts : List Turn := [.act (.opens "S1"), .act (.opens "S2"), .act (.line 0 "vlam"),
      .act (.line 1 " shwo "), .act (.answer 1 (.tip " Try show. ")), .act (.close 0),
      .act (.answer 0 (.tip "Try vlan."))]
    e.sessions = [] ∧ (e.turns ts).Delivers (fun id => unseen id e [] ts) ∧
      unseen 0 e [] ts = [] ∧ unseen 1 e [] ts = ["Try show."] ∧ (e.turns ts).pending = [] ∧
      ∃ s s', (e.turns ts).session? 1 = some s ∧ ((e.turns ts).poll 1).session? 1 = some s' ∧
        s'.transcript = s.transcript ++ ["[AI Tip]: Try show."] := by
  intro e ts
  have delivers := delivers_of_turns (e := e) rfl ts
  have unseen₁ : unseen 1 e [] ts = ["Try show."] := by decide +kernel
  have there : ((e.turns ts).session? 1).map (fun s => (s.closed, s.due (e.turns ts).clock)) =
      some (false, false) := by decide +kernel
  obtain ⟨s, hs, h⟩ := Option.map_eq_some_iff.1 there
  obtain ⟨hopen, notDue⟩ := Prod.mk.inj h
  obtain ⟨s', hs', screen⟩ := delivers.polls 1 s hs hopen
  rw [Session.woken_of_not_due notDue, unseen₁] at screen
  exact ⟨rfl, delivers, by decide +kernel, unseen₁, by decide +kernel, s, s', hs, hs', screen⟩

end NetLab.Engine
