import NetLab.Proofs.Engine.Upshot

set_option autoImplicit false

/-!
# Turns

A turn is anything that can happen while an engine is in use: what happens in a run
(`Engine.Act`), a wait for hints, a line that is recalled from a history, a change of the network
from outside, and another time on the clock.  Turns come in any order, on sessions old and new.

`Engine.Becomes` lists what one turn can make of one session.  Every statement on what becomes of a
session over many turns is an induction with one case for each item of this list.
-/

namespace NetLab

/-- The session once a line of its history was recalled: the one before, or the one after. -/
def Session.recallStep (s : Session) (back : Bool) : Session :=
  if back then s.recallPrevious.2 else s.recallNext.2

/-- To recall a line moves the recall position, and nothing else. -/
theorem Session.recallStep_eq (s : Session) (back : Bool) :
    ∃ cursor, s.recallStep back = { s with cursor } := by
  rw [recallStep]
  split
  · rw [recallPrevious]
    split
    · exact ⟨s.cursor, rfl⟩
    · exact ⟨_, rfl⟩
  · rw [recallNext]
    split
    · exact ⟨_, rfl⟩
    · exact ⟨none, rfl⟩

namespace Engine

/-- What can happen while an engine is in use. -/
inductive Turn where
  | act (a : Act)
  /-- hints are waited for, as long as this at most -/
  | wait (id : Nat) (seconds : Double)
  /-- a line of the history is recalled, the one before or the one after -/
  | recalls (id : Nat) (back : Bool)
  /-- the network is changed by something else than a line -/
  | edit (n : Network)
  /-- the clock shows this time -/
  | clock (now : Double)

/-- The engine after a turn. -/
def turn (e : Engine) : Turn → Engine
  | .act a => e.act a
  | .wait id seconds => (e.drainWithin id seconds).2
  | .recalls id back =>
    match e.session? id with
    | none => e
    | some s => e.setSession id (s.recallStep back)
  | .edit n => { e with network := n }
  | .clock now => { e with clock := now }

/-- The engine after turns in order. -/
def turns (e : Engine) (ts : List Turn) : Engine := ts.foldl turn e

@[simp] theorem turns_nil (e : Engine) : e.turns [] = e := rfl

@[simp] theorem turns_cons (e : Engine) (t : Turn) (ts : List Turn) :
    e.turns (t :: ts) = (e.turn t).turns ts := rfl

/-- What holds at the start and is kept by every turn holds after any turns. -/
theorem turns_induction {P : Engine → Prop} {e : Engine} (start : P e)
    (step : ∀ e t, P e → P (e.turn t)) (ts : List Turn) : P (e.turns ts) := by
  induction ts generalizing e with
  | nil => exact start
  | cons t ts ih => exact ih (step e t start)

/-- The session that a turn is given to. -/
def Turn.session? : Turn → Option Nat
  | .act (.line i _) | .act (.poll i) | .act (.close i) | .act (.drain i) | .wait i _
  | .recalls i _ => some i
  | _ => none

/-- The turn looks at the session, if it is open: a line is given to it, or it is polled, or its
hints are shown.  To wait less than nothing is refused. -/
def Turn.looksAt (id : Nat) : Turn → Bool
  | .act (.line i _) | .act (.poll i) | .act (.drain i) => i = id
  | .wait i seconds => i = id && !seconds.isNegative
  | _ => false

/-- The tip that an answer to a question brings to a session: the session asked the question and is
open, and the tip is not blank.  It comes without the blanks around it. -/
def tip? (e : Engine) (id : Nat) (q : Question) : Advice → Option String
  | .tip text =>
    if q.session = id ∧ Text.trim text ≠ "" ∧ (e.session? id).all (·.closed) = false then
      some (Text.trim text)
    else none
  | _ => none

/-- The tip that a turn brings to a session. -/
def arrival? (e : Engine) (id : Nat) : Turn → Option String
  | .act (.answer k a) => e.pending[k]?.bind fun q => e.tip? id q a
  | _ => none

variable {e : Engine} {id : Nat} {s : Session}

/-! ## Single turns -/

theorem all_closed_of_open (hs : e.session? id = some s) (hopen : s.closed = false) :
    (e.session? id).all (·.closed) = false := by
  rw [hs]
  exact hopen

theorem all_closed_of_closed (hs : e.session? id = some s) (hclosed : s.closed = true) :
    (e.session? id).all (·.closed) = true := by
  rw [hs]
  exact hclosed

/-- Closing a session that is open ends it, and says so. -/
theorem close_eq_put (hs : e.session? id = some s) (hopen : s.closed = false) :
    e.close id = (e.put id s.close [⟨s.uid, .closed⟩]).follow id s.close := by
  rw [close, hs]
  exact if_neg (by simp [hopen])

/-- A session that is closed is found closed. -/
theorem session?_close (hs : e.session? id = some s) (hopen : s.closed = false) :
    (e.close id).session? id = some s.close := by
  rw [close_eq_put hs hopen, session?_follow, session?_put hs]

/-- A wait is refused and changes nothing, or is as good as showing the hints at once. -/
theorem turn_wait_of_open (hs : e.session? id = some s) (hopen : s.closed = false)
    (seconds : Double) : e.turn (.wait id seconds) =
      if seconds.isNegative then e else (e.drain id).2 := by
  rw [turn, drainWithin, all_closed_of_open hs hopen, Bool.not_false, Bool.and_true]
  split <;> rfl

/-- A closed session is not waited for. -/
theorem turn_wait_of_closed (h : (e.session? id).all (·.closed) = true) (seconds : Double) :
    e.turn (.wait id seconds) = (e.drain id).2 := by
  rw [turn, drainWithin, h, Bool.not_true, Bool.and_false, if_neg Bool.false_ne_true]

/-- A session in which a line is recalled moves its recall position. -/
theorem turn_recall (hs : e.session? id = some s) (back : Bool) :
    ∃ cursor, e.turn (.recalls id back) = e.put id { s with cursor } [] := by
  obtain ⟨cursor, h⟩ := s.recallStep_eq back
  refine ⟨cursor, ?_⟩
  rw [turn, hs, ← h]
  rfl

/-- To recall a line reaches sessions only. -/
theorem exists_sessions_of_recall (e : Engine) (id : Nat) (back : Bool) :
    ∃ sessions, e.turn (.recalls id back) = { e with sessions } := by
  rw [turn]
  split
  · exact ⟨e.sessions, rfl⟩
  · exact ⟨_, rfl⟩

theorem turn_recall_of_none (hs : e.session? id = none) (back : Bool) :
    e.turn (.recalls id back) = e := by
  rw [turn, hs]

/-- A turn that is given to a session that is closed or not there recalls a line, or drops the hints
at most. -/
theorem turn_of_all_closed {t : Turn} (all : (e.session? id).all (·.closed) = true)
    (ended : ∀ s, e.session? id = some s → s.deadline = none) (given : t.session? = some id) :
    e.turn t = e ∨ e.turn t = (e.drain id).2 ∨ ∃ back, t = .recalls id back := by
  cases t with
  | wait i seconds =>
    obtain rfl := Option.some.inj given
    exact Or.inr (Or.inl (turn_wait_of_closed all seconds))
  | recalls i back =>
    obtain rfl := Option.some.inj given
    exact Or.inr (Or.inr ⟨back, rfl⟩)
  | edit n => cases given
  | clock now => cases given
  | act a =>
    cases a with
    | line i text =>
      obtain rfl := Option.some.inj given
      exact Or.inl (congrArg Prod.snd (execute_of_closed all))
    | poll i =>
      obtain rfl := Option.some.inj given
      cases hs : e.session? i with
      | none => exact Or.inl (poll_of_none hs)
      | some s =>
        have notDue : s.due e.clock = false := by rw [Session.due, ended s hs, Option.any_none]
        refine Or.inr (Or.inl ((poll_eq_of_woken hs).trans ?_))
        rw [Session.woken_of_not_due notDue, put_self hs]
    | close i =>
      obtain rfl := Option.some.inj given
      exact Or.inl (close_of_closed all)
    | drain i =>
      obtain rfl := Option.some.inj given
      exact Or.inr (Or.inl rfl)
    | opens uid => cases given
    | answer k a => cases given
    | pass seconds => cases given

/-- A turn that is given to a session that is not there does nothing. -/
theorem turn_of_none {t : Turn} (hs : e.session? id = none) (given : t.session? = some id) :
    e.turn t = e := by
  have drained : (e.drain id).2 = e := by rw [drain, hs]
  obtain h | h | ⟨back, rfl⟩ :=
    turn_of_all_closed (by rw [hs]; rfl) (fun s h => by rw [hs] at h; cases h) given
  · exact h
  · exact h.trans drained
  · exact turn_recall_of_none hs back

/-- Whatever is done to a closed session reaches nothing else. -/
theorem turn_of_closed {t : Turn} (hs : e.session? id = some s) (closed : s.closed = true)
    (ended : s.deadline = none) (given : t.session? = some id) :
    ∃ hints cursor,
      e.turn t = { e with sessions := e.sessions.set id { s with hints, cursor } } := by
  have only : ∀ x, e.session? id = some x → x.deadline = none := fun x hx => by
    rw [← Option.some.inj (hs.symm.trans hx), ended]
  obtain h | h | ⟨back, rfl⟩ := turn_of_all_closed (all_closed_of_closed hs closed) only given
  · exact ⟨s.hints, s.cursor, h.trans (put_self hs).symm⟩
  · exact ⟨[], s.cursor, h.trans (congrArg Prod.snd (drain_of_closed hs closed))⟩
  · obtain ⟨cursor, h⟩ := turn_recall hs back
    exact ⟨s.hints, cursor, h⟩

/-- A session opens on a device that is there, after the one that stands for it was closed. -/
theorem turn_opens {uid : String} {d : Device} (hd : e.network.device uid = .ok d) :
    let e' := (e.sessionFor? d.uid).elim e e.close
    e.turn (.act (.opens uid)) =
      { e' with
        sessions := e'.sessions ++ [Session.start d.uid d.kind.name d.hostname]
        registry := e'.registry.enter d.uid e'.sessions.length
        listener := e'.listener.hear ⟨d.uid, .opened⟩ } := by
  rw [turn, act, openSession, hd]
  rfl

/-- Without its device no session opens, and nothing else happens. -/
theorem turn_opens_of_error {uid : String} {f : Fault} (hd : e.network.device uid = .error f) :
    e.openSession uid = .error f ∧ e.turn (.act (.opens uid)) = e := by
  have refused : e.openSession uid = .error f := by
    rw [openSession, hd]
    rfl
  refine ⟨refused, ?_⟩
  rw [turn, act, refused]

/-- No tip comes to a session that did not ask. -/
theorem tip?_of_ne {q : Question} (h : q.session ≠ id) (a : Advice) : e.tip? id q a = none := by
  cases a with
  | tip text => exact if_neg fun asked => h asked.1
  | nothing => rfl
  | failed error => rfl

/-- An answer that brings a tip to a session lets it wait there. -/
theorem receive_of_tip {q : Question} {a : Advice} {tip : String}
    (h : e.tip? q.session q a = some tip) :
    ∃ s, e.session? q.session = some s ∧ s.closed = false ∧
      e.receive q a = e.put q.session { s with hints := s.hints ++ [tip] } [] := by
  cases a with
  | tip text =>
    rw [tip?, Option.ite_none_right_eq_some] at h
    obtain ⟨⟨-, notBlank, isOpen⟩, h⟩ := h
    obtain rfl := Option.some.inj h
    rw [receive]
    cases hs : e.session? q.session with
    | none =>
      rw [hs] at isOpen
      cases isOpen
    | some s =>
      rw [hs, Option.all_some] at isOpen
      exact ⟨s, rfl, isOpen, if_neg (by simp [notBlank, isOpen])⟩
  | nothing => cases h
  | failed error => cases h

/-- An answer that brings no tip changes no session.  A failure is told. -/
theorem receive_of_no_tip {q : Question} {a : Advice} (h : e.tip? q.session q a = none) :
    ∃ ns, (∀ n ∈ ns, ∃ line error, n.report = .hintFailed line error) ∧
      e.receive q a = { e with listener := e.listener.hearAll ns } := by
  have quiet : ∃ ns : List Notice, (∀ n ∈ ns, ∃ line error, n.report = .hintFailed line error) ∧
      e = { e with listener := e.listener.hearAll ns } := ⟨[], List.forall_mem_nil _, rfl⟩
  rw [receive]
  cases hs : e.session? q.session with
  | none => exact quiet
  | some s =>
    cases a with
    | nothing => exact quiet
    | failed error =>
      refine ⟨[⟨s.uid, .hintFailed q.line error⟩], fun n hn => ?_, rfl⟩
      exact ⟨q.line, error, by rw [List.mem_singleton.1 hn]⟩
    | tip text =>
      have lost : (Text.trim text = "" || s.closed) = true := by
        rw [tip?, hs] at h
        by_cases blank : Text.trim text = ""
        · simp [blank]
        · simpa [blank] using h
      dsimp only
      rw [if_pos lost]
      exact quiet

/-- What an answer does.  The question is not pending any more; and the answer brings a tip to one
session, where it waits, or it changes no session. -/
inductive Brings (e : Engine) (k : Nat) (a : Advice) : Engine → Prop where
  | tip {i : Nat} {s : Session} {tip : String} (there : e.session? i = some s)
      (isOpen : s.closed = false) (arrives : e.arrival? i (.act (.answer k a)) = some tip)
      (only : ∀ j, j ≠ i → e.arrival? j (.act (.answer k a)) = none) :
      Brings e k a { e.put i { s with hints := s.hints ++ [tip] } [] with
        pending := e.pending.eraseIdx k }
  | nothing {ns : List Notice} (none : ∀ j, e.arrival? j (.act (.answer k a)) = none)
      (failures : ∀ n ∈ ns, ∃ line error, n.report = .hintFailed line error) :
      Brings e k a { e with
        pending := e.pending.eraseIdx k, listener := e.listener.hearAll ns }

theorem brings (e : Engine) (k : Nat) (a : Advice) : Brings e k a (e.answer k a) := by
  rw [answer]
  cases hq : e.pending[k]? with
  | none =>
    have same : e = { e with
        pending := e.pending.eraseIdx k, listener := e.listener.hearAll [] } := by
      rw [List.eraseIdx_of_length_le (List.getElem?_eq_none_iff.1 hq)]
      rfl
    have arrivals : ∀ j, e.arrival? j (.act (.answer k a)) = none := fun j => by
      rw [arrival?, hq]
      rfl
    dsimp only
    conv => arg 4; rw [same]
    exact .nothing arrivals (List.forall_mem_nil _)
  | some q =>
    have arrival : ∀ j, e.arrival? j (.act (.answer k a)) = e.tip? j q a := fun j => by
      rw [arrival?, hq]
      rfl
    have apart : ∀ j, j ≠ q.session → e.arrival? j (.act (.answer k a)) = none :=
      fun j hj => (arrival j).trans (tip?_of_ne (Ne.symm hj) a)
    cases htip : e.tip? q.session q a with
    | some tip =>
      obtain ⟨s, hs, hopen, h⟩ :=
        receive_of_tip (e := { e with pending := e.pending.eraseIdx k }) htip
      dsimp only
      rw [h]
      exact .tip hs hopen ((arrival _).trans htip) apart
    | none =>
      obtain ⟨ns, failures, h⟩ :=
        receive_of_no_tip (e := { e with pending := e.pending.eraseIdx k }) htip
      dsimp only
      rw [h]
      refine .nothing (fun j => ?_) failures
      by_cases hj : j = q.session
      · rw [hj, arrival, htip]
      · exact apart j hj

/-! ## The other sessions -/

variable {i j : Nat}

theorem session?_close_of_ne (h : j ≠ i) : (e.close i).session? j = e.session? j := by
  obtain hall | ⟨s, hs, hopen⟩ := closed_or_open e i
  · rw [close_of_closed hall]
  · rw [close_eq_put hs hopen, session?_follow, session?_put_of_ne h]

theorem session?_drain_of_ne (h : j ≠ i) : (e.drain i).2.session? j = e.session? j := by
  cases hs : e.session? i with
  | none => rw [drain, hs]
  | some s =>
    cases hc : s.closed with
    | true => rw [drain_of_closed hs hc, session?_put_of_ne h]
    | false => rw [drain_of_open hs hc, session?_put_of_ne h]

theorem session?_poll_of_ne (h : j ≠ i) : (e.poll i).session? j = e.session? j := by
  cases hs : e.session? i with
  | none => rw [poll_of_none hs]
  | some s => rw [poll_eq_of_woken hs, session?_drain_of_ne h, session?_put_of_ne h]

theorem session?_execute_of_ne (h : j ≠ i) (line : String) :
    (e.execute i line).2.session? j = e.session? j := by
  obtain hall | ⟨s, hs, hopen⟩ := closed_or_open e i
  · rw [execute_of_closed hall]
  · rw [execute_of_open hs hopen]
    exact session?_settle_of_ne h _ _

theorem session?_wait_of_ne (h : j ≠ i) (seconds : Double) :
    (e.turn (.wait i seconds)).session? j = e.session? j := by
  obtain hall | ⟨s, hs, hopen⟩ := closed_or_open e i
  · rw [turn_wait_of_closed hall, session?_drain_of_ne h]
  · rw [turn_wait_of_open hs hopen]
    split
    · rfl
    · exact session?_drain_of_ne h

theorem session?_recall_of_ne (h : j ≠ i) (back : Bool) :
    (e.turn (.recalls i back)).session? j = e.session? j := by
  cases hs : e.session? i with
  | none => rw [turn_recall_of_none hs]
  | some s =>
    obtain ⟨cursor, recalled⟩ := turn_recall hs back
    rw [recalled, session?_put_of_ne h]

/-- A turn that is given to a session leaves the others. -/
theorem session?_turn_of_ne {t : Turn} (given : t.session? = some i) (h : j ≠ i) :
    (e.turn t).session? j = e.session? j := by
  cases t with
  | wait k seconds =>
    obtain rfl := Option.some.inj given
    exact session?_wait_of_ne h seconds
  | recalls k back =>
    obtain rfl := Option.some.inj given
    exact session?_recall_of_ne h back
  | edit n => cases given
  | clock now => cases given
  | act a =>
    cases a with
    | line k text =>
      obtain rfl := Option.some.inj given
      exact session?_execute_of_ne h text
    | poll k =>
      obtain rfl := Option.some.inj given
      exact session?_poll_of_ne h
    | close k =>
      obtain rfl := Option.some.inj given
      exact session?_close_of_ne h
    | drain k =>
      obtain rfl := Option.some.inj given
      exact session?_drain_of_ne h
    | opens uid => cases given
    | answer k a => cases given
    | pass seconds => cases given

/-! ## What a turn makes of a session -/

/-- What one turn can make of a session. -/
inductive Becomes (e : Engine) (id : Nat) (s : Session) : Turn → Session → Prop where
  /-- the turn is about something else, or is refused -/
  | stays {t : Turn} (elsewhere : t.looksAt id = false) (none : e.arrival? id t = none) :
      Becomes e id s t s
  | receives {t : Turn} {tip : String} (isOpen : s.closed = false)
      (arrives : e.arrival? id t = some tip) :
      Becomes e id s t { s with hints := s.hints ++ [tip] }
  /-- it is closed, or another one opens on its device -/
  | closes {t : Turn} (isOpen : s.closed = false) (elsewhere : t.looksAt id = false)
      (none : e.arrival? id t = none) : Becomes e id s t s.close
  /-- it was closed before, and drops its hints or moves its recall position at most -/
  | spent {t : Turn} (closed : s.closed = true) (hints : List String) (cursor : Option Nat) :
      Becomes e id s t { s with hints, cursor }
  | recalls (isOpen : s.closed = false) (back : Bool) (cursor : Option Nat) :
      Becomes e id s (.recalls id back) { s with cursor }
  | line (isOpen : s.closed = false) (text : String) : Becomes e id s (.act (.line id text))
      (s.upshot ⟨e.clock, e.bootDelay⟩ e.network (Text.trim text)).final
  | poll (isOpen : s.closed = false) : Becomes e id s (.act (.poll id)) (s.polled e.clock)
  | drain (isOpen : s.closed = false) : Becomes e id s (.act (.drain id)) s.showHints
  | wait (isOpen : s.closed = false) {seconds : Double} (taken : seconds.isNegative = false) :
      Becomes e id s (.wait id seconds) s.showHints

/-- When a session opens, the one that stands for the device is closed, and every other one
stays. -/
theorem session?_opens (hs : e.session? id = some s) (uid : String) :
    (e.turn (.act (.opens uid))).session? id = some s ∨
      (s.closed = false ∧ (e.turn (.act (.opens uid))).session? id = some s.close) := by
  cases hd : e.network.device uid with
  | error f => exact Or.inl (by rw [(turn_opens_of_error hd).2, hs])
  | ok d =>
    rw [turn_opens hd]
    have kept : ∀ {s' : Session} {x : Session} {xs : List Session}, xs[id]? = some s' →
        (xs ++ [x])[id]? = some s' := fun h => by
      rw [List.getElem?_append_left (List.getElem?_eq_some_iff.1 h).1, h]
    cases hfor : e.sessionFor? d.uid with
    | none => exact Or.inl (kept hs)
    | some k =>
      by_cases hk : id = k
      · subst hk
        rw [Option.elim_some]
        cases hc : s.closed with
        | true =>
          rw [close_of_closed (all_closed_of_closed hs hc)]
          exact Or.inl (kept hs)
        | false => exact Or.inr ⟨rfl, kept (session?_close hs hc)⟩
      · refine Or.inl (kept ?_)
        have same := session?_close_of_ne (e := e) hk
        rw [hs] at same
        exact same

/-- An answer brings a tip to the session, or leaves it. -/
theorem becomes_answer (hs : e.session? id = some s) (k : Nat) (a : Advice) :
    ∃ s', (e.answer k a).session? id = some s' ∧ Becomes e id s (.act (.answer k a)) s' := by
  have answered := e.brings k a
  generalize e.answer k a = e' at answered
  cases answered with
  | nothing none _ => exact ⟨s, hs, .stays rfl (none id)⟩
  | @tip i s' tip there isOpen arrives only =>
    by_cases hi : id = i
    · subst hi
      obtain rfl := Option.some.inj (hs.symm.trans there)
      exact ⟨_, session?_put hs _ [], .receives isOpen arrives⟩
    · exact ⟨s, (session?_put_of_ne hi _ []).trans hs, .stays rfl (only id hi)⟩

/-- What a turn makes of the open session that it is given to. -/
theorem becomes_of_open {t : Turn} (hs : e.session? id = some s) (hopen : s.closed = false)
    (given : t.session? = some id) :
    ∃ s', (e.turn t).session? id = some s' ∧ Becomes e id s t s' := by
  have shown : (e.drain id).2.session? id = some s.showHints := by
    rw [drain_of_open hs hopen]
    exact session?_put hs _ _
  cases t with
  | wait i seconds =>
    obtain rfl := Option.some.inj given
    rw [turn_wait_of_open hs hopen]
    cases hn : seconds.isNegative with
    | true => exact ⟨s, hs, .stays (by simp [Turn.looksAt, hn]) rfl⟩
    | false => exact ⟨_, shown, .wait hopen hn⟩
  | recalls i back =>
    obtain rfl := Option.some.inj given
    obtain ⟨cursor, recalled⟩ := turn_recall hs back
    rw [recalled]
    exact ⟨_, session?_put hs _ [], .recalls hopen back cursor⟩
  | edit n => cases given
  | clock now => cases given
  | act a =>
    cases a with
    | line i text =>
      obtain rfl := Option.some.inj given
      refine ⟨_, ?_, .line hopen text⟩
      rw [turn, act, execute_of_open hs hopen]
      exact session?_settle hs _ _
    | poll i =>
      obtain rfl := Option.some.inj given
      refine ⟨_, ?_, .poll hopen⟩
      rw [turn, act, poll_of_open hs hopen]
      exact session?_put hs _ _
    | close i =>
      obtain rfl := Option.some.inj given
      exact ⟨_, session?_close hs hopen, .closes hopen rfl rfl⟩
    | drain i =>
      obtain rfl := Option.some.inj given
      exact ⟨_, shown, .drain hopen⟩
    | opens uid => cases given
    | answer k a => cases given
    | pass seconds => cases given

/-- A turn that is given to another session leaves this one. -/
theorem stays_of_ne {t : Turn} (given : t.session? = some i) (h : i ≠ id) :
    Becomes e id s t s := by
  cases t with
  | wait k seconds =>
    obtain rfl := Option.some.inj given
    exact .stays (by simp [Turn.looksAt, h]) rfl
  | recalls k back => exact .stays rfl rfl
  | edit n => cases given
  | clock now => cases given
  | act a =>
    cases a with
    | opens uid => cases given
    | answer k a => cases given
    | pass seconds => cases given
    | _ =>
      obtain rfl := Option.some.inj given
      exact .stays (by simp [Turn.looksAt, h]) rfl

/-- Every turn makes of a session one of the things that are listed. -/
theorem becomes (hs : e.session? id = some s) (ended : s.closed = true → s.deadline = none)
    (t : Turn) : ∃ s', (e.turn t).session? id = some s' ∧ Becomes e id s t s' := by
  cases given : t.session? with
  | some i =>
    by_cases hi : i = id
    · subst hi
      cases hc : s.closed with
      | true =>
        obtain ⟨hints, cursor, h⟩ := turn_of_closed hs hc (ended hc) given
        refine ⟨{ s with hints, cursor }, ?_, .spent hc hints cursor⟩
        rw [h]
        exact session?_put hs _ []
      | false => exact becomes_of_open hs hc given
    · exact ⟨s, (session?_turn_of_ne given (Ne.symm hi)).trans hs, stays_of_ne given hi⟩
  | none =>
    cases t with
    | wait i seconds => cases given
    | recalls i back => cases given
    | edit n => exact ⟨s, hs, .stays rfl rfl⟩
    | clock now => exact ⟨s, hs, .stays rfl rfl⟩
    | act a =>
      cases a with
      | opens uid =>
        obtain h | ⟨hopen, h⟩ := session?_opens hs uid
        · exact ⟨s, h, .stays rfl rfl⟩
        · exact ⟨_, h, .closes hopen rfl rfl⟩
      | answer k a => exact becomes_answer hs k a
      | pass seconds => exact ⟨s, hs, .stays rfl rfl⟩
      | line i text => cases given
      | poll i => cases given
      | close i => cases given
      | drain i => cases given

end Engine

end NetLab
