import NetLab.Proofs.Engine.Bracket

set_option autoImplicit false

/-!
# Recall

A session keeps the lines that it takes, and shows them again one at a time: a step back goes to the
next older line and stays on the oldest, a step forward goes to the next newer one, and past the
newest to no line.  Recall stands so many steps back (`Session.position`), where no steps back is no
line and one step back is the newest.

Of all that happens to an engine only two things count for this, the lines that the session takes
and the steps of recall (`Engine.inputs`).  They settle the history and the position, whatever else
goes on between them.
-/

namespace NetLab

/-- What counts for the history of a session: a line that it takes, without the blanks around it, or
a step of recall, back to an older line or forward to a newer one. -/
inductive Input where
  | line (text : String)
  | move (back : Bool)
  deriving DecidableEq, Repr

namespace Input

/-- The line that goes into the history.  A blank one does not. -/
def recorded? : Input → Option String
  | .line text => if text = "" then none else some text
  | .move _ => none

/-- The steps of recall since a line, with one more input.  A line ends them all. -/
def follow (steps : List Bool) : Input → List Bool
  | .line _ => []
  | .move back => steps ++ [back]

/-- The steps of recall since the last line. -/
def stepsSince (inputs : List Input) : List Bool := inputs.foldl follow []

theorem stepsSince_concat (inputs : List Input) (i : Input) :
    stepsSince (inputs ++ [i]) = follow (stepsSince inputs) i :=
  List.foldl_concat follow [] i inputs

end Input

namespace Session

/-- How many steps back recall stands.  Where no line is recalled it stands none back. -/
def position (s : Session) : Nat := s.cursor.elim 0 (· + 1)

/-- A count of steps back, with one more step: it goes no further than a bound, and no further
forward than zero. -/
def clamped (bound k : Nat) (back : Bool) : Nat := if back then min (k + 1) bound else k - 1

/-- So many steps back in a history stands this text.  No steps back, it is empty. -/
inductive Shown (history : List String) : Nat → String → Prop where
  | nothing : Shown history 0 ""
  | line {k : Nat} {text : String} (h : history.reverse[k]? = some text) :
      Shown history (k + 1) text

/-- What a step of recall shows. -/
def recallAnswer (s : Session) (back : Bool) : String :=
  if back then s.recallPrevious.1 else s.recallNext.1

/-- The session with an input. -/
def feed (s : Session) : Input → Session
  | .line text => if text = "" then s.takeBlank else s.takeLine text
  | .move back => s.recallStep back

/-- Two sessions have the same history and recall the same line of it. -/
structure RecallsAs (s s' : Session) : Prop where
  history : s'.history = s.history
  cursor : s'.cursor = s.cursor

/-- The history and the recall position of a session are what these inputs make of them: the lines
that are not blank, and a clamped count of the steps since the last line. -/
structure Recalls (s : Session) (inputs : List Input) : Prop where
  history : s.history = inputs.filterMap Input.recorded?
  position : s.position = (Input.stepsSince inputs).foldl (clamped s.history.length) 0

variable {s s' : Session} {inputs : List Input}

/-! ## Steps of recall -/

/-- A count that starts within its bound stays there. -/
theorem foldl_clamped_le {bound k : Nat} (h : k ≤ bound) (steps : List Bool) :
    steps.foldl (clamped bound) k ≤ bound := by
  induction steps generalizing k with
  | nil => exact h
  | cons back steps ih =>
    refine ih ?_
    rw [clamped]
    split
    · exact Nat.min_le_right _ _
    · omega

theorem shown_recalled {k : Nat} (h : k < s.history.length) :
    Shown s.history (k + 1) (s.recalled k) := by
  have there : k < s.history.reverse.length := by rwa [List.length_reverse]
  refine .line ?_
  rw [recalled, List.getElem?_eq_getElem there, Option.getD_some]

@[simp] theorem position_of_none (h : s.cursor = none) : s.position = 0 := by
  rw [position, h, Option.elim_none]

theorem position_of_some {k : Nat} (h : s.cursor = some k) : s.position = k + 1 := by
  rw [position, h, Option.elim_some]

/-- Where recall stands on a line of the history, a step takes it to one, or to none. -/
theorem shown_recallStep (within : s.position ≤ s.history.length) (back : Bool) :
    (s.recallStep back).position = clamped s.history.length s.position back ∧
      Shown s.history (clamped s.history.length s.position back) (s.recallAnswer back) := by
  cases back with
  | false =>
    rw [recallStep, recallAnswer, recallNext, clamped]
    cases hc : s.cursor with
    | none =>
      rw [position_of_none hc]
      exact ⟨rfl, .nothing⟩
    | some k =>
      rw [position_of_some hc] at within ⊢
      cases k with
      | zero => exact ⟨rfl, .nothing⟩
      | succ k => exact ⟨rfl, shown_recalled (by omega)⟩
  | true =>
    rw [recallStep, recallAnswer, recallPrevious, clamped]
    by_cases empty : s.history = []
    · have none : s.position = 0 := by
        rw [empty] at within
        exact Nat.le_zero.1 within
      simp only [if_true, empty, List.isEmpty_nil, List.length_nil, Nat.min_zero]
      exact ⟨none, .nothing⟩
    · have pos : 0 < s.history.length := List.length_pos_iff.2 empty
      have notEmpty : ¬ s.history.isEmpty = true := by simpa using empty
      simp only [if_true, if_neg notEmpty]
      cases hc : s.cursor with
      | none =>
        have bound : min (s.position + 1) s.history.length = 0 + 1 := by
          rw [position_of_none hc]
          omega
        rw [bound]
        exact ⟨rfl, shown_recalled pos⟩
      | some k =>
        have bound : min (s.position + 1) s.history.length =
            min (k + 1) (s.history.length - 1) + 1 := by
          rw [position_of_some hc]
          omega
        rw [bound]
        exact ⟨rfl, shown_recalled (by omega)⟩

theorem history_recallStep (s : Session) (back : Bool) :
    (s.recallStep back).history = s.history := by
  obtain ⟨cursor, h⟩ := s.recallStep_eq back
  rw [h]

/-! ## Inputs -/

theorem RecallsAs.refl (s : Session) : s.RecallsAs s := ⟨rfl, rfl⟩

theorem RecallsAs.trans {s'' : Session} (h : s.RecallsAs s') (h' : s'.RecallsAs s'') :
    s.RecallsAs s'' :=
  ⟨h'.history.trans h.history, h'.cursor.trans h.cursor⟩

theorem RecallsAs.position (h : s.RecallsAs s') : s'.position = s.position := by
  rw [Session.position, h.cursor, Session.position]

theorem Recalls.congr (h : s.Recalls inputs) (same : s.RecallsAs s') : s'.Recalls inputs where
  history := same.history.trans h.history
  position := by rw [same.position, same.history, h.position]

theorem Recalls.position_le (h : s.Recalls inputs) : s.position ≤ s.history.length := by
  rw [h.position]
  exact foldl_clamped_le (Nat.zero_le _) _

theorem recalls_nil (history : s.history = []) (cursor : s.cursor = none) : s.Recalls [] where
  history := history
  position := position_of_none cursor

theorem history_feed (s : Session) (i : Input) :
    (s.feed i).history = s.history ++ i.recorded?.toList := by
  cases i with
  | move back => exact (history_recallStep s back).trans (List.append_nil _).symm
  | line text =>
    by_cases blank : text = ""
    · simp [feed, Input.recorded?, blank, takeBlank]
    · simp [feed, Input.recorded?, blank, takeLine]

theorem cursor_feed_line (s : Session) (text : String) : (s.feed (.line text)).cursor = none := by
  rw [feed]
  split <;> rfl

theorem RecallsAs.feed_line (h : s.RecallsAs s') (text : String) :
    (s.feed (.line text)).RecallsAs (s'.feed (.line text)) where
  history := by rw [history_feed, history_feed, h.history]
  cursor := by rw [cursor_feed_line, cursor_feed_line]

/-- One more input goes into the history, or moves the recall position, or does both. -/
theorem Recalls.feed (h : s.Recalls inputs) (i : Input) :
    (s.feed i).Recalls (inputs ++ [i]) where
  history := by
    rw [history_feed, h.history, List.filterMap_append, List.filterMap_cons, List.filterMap_nil]
    cases i.recorded? <;> rfl
  position := by
    rw [Input.stepsSince_concat]
    cases i with
    | line text => exact position_of_none (cursor_feed_line s text)
    | move back =>
      rw [Session.feed, history_recallStep, Input.follow, List.foldl_concat, ← h.position]
      exact (shown_recallStep h.position_le back).1

/-! ## Looking at a session and taking a line -/

theorem recallsAs_polled (s : Session) (clock : Double) : s.RecallsAs (s.polled clock) where
  history := polled_history
  cursor := by
    change (s.woken clock).cursor = s.cursor
    rw [woken]
    split <;> rfl

/-- A session that was looked at refuses a line while it boots. -/
theorem refused_taking (t : Timing) (n : Network) (p : Session) (line : String) :
    (p.taking t n line).reply.toOption.any (·.refused) = p.booting := by
  have taken := p.takes t n line
  generalize p.taking t n line = u at taken
  cases taken with
  | booting h => exact h.symm
  | lostMode booted _ => exact booted.symm
  | blank booted _ _ => exact booted.symm
  | command booted _ _ =>
    rw [booted]
    cases ({ network := n, session := p.enterLine line } : Console).carryOut t
        (Command.meaning p.mode (Text.words line)) with
    | failed f c => rfl
    | refused r => rfl
    | done output c =>
      rw [Upshot.after, Outcome.upshot]
      split <;> rfl

/-- A session that was looked at has a line that it does not refuse for its input. -/
theorem recallsAs_taking (t : Timing) (n : Network) (p : Session) (line : String) :
    (if p.booting then p else p.feed (.line line)).RecallsAs (p.taking t n line).session := by
  have taken := p.takes t n line
  generalize p.taking t n line = u at taken
  cases taken with
  | booting h =>
    rw [if_pos h]
    exact .refl p
  | lostMode booted _ =>
    rw [booted, if_neg Bool.false_ne_true]
    exact .refl _
  | blank booted _ blank =>
    rw [booted, if_neg Bool.false_ne_true, feed, if_pos blank]
    exact ⟨rfl, rfl⟩
  | command booted _ notBlank =>
    rw [booted, if_neg Bool.false_ne_true, feed, if_neg notBlank]
    obtain ⟨rs, outputs, took, -, -⟩ := (Console.carryOut_took t
      ⟨n, p.enterLine line, []⟩ (Command.meaning p.mode (Text.words line))).upshot line
    exact ⟨took.continues.history, took.continues.cursor⟩

/-- An open session has a line that it does not refuse for its input. -/
theorem recallsAs_upshot (t : Timing) (n : Network) (s : Session) (line : String) :
    (if (s.upshot t n line).reply.toOption.any (·.refused) then s
      else s.feed (.line line)).RecallsAs (s.upshot t n line).final := by
  have reply : (s.upshot t n line).reply = ((s.polled t.now).taking t n line).reply := rfl
  have final : ((s.polled t.now).taking t n line).session.RecallsAs (s.upshot t n line).final :=
    ⟨rfl, rfl⟩
  refine RecallsAs.trans ?_ final
  have taken := recallsAs_taking t n (s.polled t.now) line
  rw [reply, refused_taking]
  split at taken
  · next booting =>
    rw [if_pos booting]
    exact (s.recallsAs_polled t.now).trans taken
  · next booted =>
    rw [if_neg booted]
    exact ((s.recallsAs_polled t.now).feed_line line).trans taken

end Session

namespace Engine

/-- The session takes the line: it is open, and the line is not refused.  A line that fails is
taken. -/
def takes (e : Engine) (id : Nat) (text : String) : Bool :=
  !(e.session? id).all (·.closed) && !(e.execute id text).1.toOption.any (·.refused)

/-- What a turn gives to a session that counts for its history. -/
def input? (e : Engine) (id : Nat) : Turn → Option Input
  | .act (.line i text) => if i = id ∧ e.takes id text then some (.line (Text.trim text)) else none
  | .recalls i back => if i = id ∧ (e.session? id).isSome then some (.move back) else none
  | _ => none

/-- What turns give to a session that counts for its history, in order. -/
def inputs (id : Nat) : Engine → List Turn → List Input
  | _, [] => []
  | e, t :: ts => (e.input? id t).toList ++ inputs id (e.turn t) ts

variable {e : Engine} {id : Nat} {s s' : Session} {t : Turn}

/-! ## What a turn makes of the history -/

theorem input?_of_none (hs : e.session? id = none) (t : Turn) : e.input? id t = none := by
  cases t with
  | recalls i back => simp [input?, hs]
  | act a =>
    cases a with
    | line i text => simp [input?, takes, hs]
    | _ => rfl
  | _ => rfl

/-- A line that is given to a session counts for its history if the session takes it. -/
theorem recallsAs_execute (hs : e.session? id = some s) (text : String) :
    ∃ s', (e.execute id text).2.session? id = some s' ∧
      (if e.takes id text then s.feed (.line (Text.trim text)) else s).RecallsAs s' := by
  rw [takes]
  cases hc : s.closed with
  | true =>
    have all := all_closed_of_closed hs hc
    rw [all, execute_of_closed all]
    exact ⟨s, hs, .refl s⟩
  | false =>
    rw [all_closed_of_open hs hc, execute_of_open hs hc]
    refine ⟨_, session?_settle hs _ _, ?_⟩
    have final := s.recallsAs_upshot ⟨e.clock, e.bootDelay⟩ e.network (Text.trim text)
    dsimp only
    generalize s.upshot ⟨e.clock, e.bootDelay⟩ e.network (Text.trim text) = u at final ⊢
    cases hr : u.reply.toOption.any (·.refused) with
    | true => simpa [hr] using final
    | false => simpa [hr] using final

/-- A recalled line moves the recall position of its session. -/
theorem session?_recall (hs : e.session? id = some s) (back : Bool) :
    (e.turn (.recalls id back)).session? id = some (s.recallStep back) := by
  rw [turn, hs]
  exact session?_put hs _ []

/-- The turn is neither a line nor a step of recall. -/
def Turn.isOther : Turn → Bool
  | .act (.line _ _) | .recalls _ _ => false
  | _ => true

/-- A closed session keeps its history and its recall position in every other turn. -/
theorem recallsAs_of_closed (hs : e.session? id = some s) (closed : s.closed = true)
    (ended : s.deadline = none) (other : t.isOther = true) :
    ∃ s', (e.turn t).session? id = some s' ∧ s.RecallsAs s' := by
  have only : ∀ x, e.session? id = some x → x.deadline = none := fun x hx => by
    rw [← Option.some.inj (hs.symm.trans hx), ended]
  cases given : t.session? with
  | some i =>
    by_cases hi : id = i
    · subst hi
      obtain same | drained | ⟨back, rfl⟩ :=
        turn_of_all_closed (all_closed_of_closed hs closed) only given
      · exact ⟨s, by rw [same, hs], .refl s⟩
      · rw [drained, drain_of_closed hs closed]
        exact ⟨s.dropHints, session?_put hs _ [], rfl, rfl⟩
      · cases other
    · exact ⟨s, (session?_turn_of_ne given hi).trans hs, .refl s⟩
  | none =>
    cases t with
    | wait i seconds => cases given
    | recalls i back => cases given
    | edit n => exact ⟨s, hs, .refl s⟩
    | clock now => exact ⟨s, hs, .refl s⟩
    | act a =>
      cases a with
      | opens uid =>
        obtain h | ⟨isOpen, -⟩ := session?_opens hs uid
        · exact ⟨s, h, .refl s⟩
        · exact absurd (closed.symm.trans isOpen) (by decide)
      | answer k a =>
        have answered := e.brings k a
        rw [turn, act]
        generalize e.answer k a = e' at answered
        cases answered with
        | nothing _ _ => exact ⟨s, hs, .refl s⟩
        | @tip i x tip there isOpen _ _ =>
          refine ⟨s, (session?_put_of_ne (fun hi => ?_) _ []).trans hs, .refl s⟩
          subst hi
          obtain rfl := Option.some.inj (hs.symm.trans there)
          exact absurd (closed.symm.trans isOpen) (by decide)
      | pass seconds => exact ⟨s, hs, .refl s⟩
      | line i text => cases given
      | poll i => cases given
      | close i => cases given
      | drain i => cases given

/-- So does an open one. -/
theorem Becomes.recallsAs (h : Becomes e id s t s') (isOpen : s.closed = false)
    (other : t.isOther = true) : s.RecallsAs s' := by
  cases h with
  | spent closed _ _ => exact absurd (closed.symm.trans isOpen) (by decide)
  | recalls _ _ _ => cases other
  | line _ _ => cases other
  | poll _ => exact s.recallsAs_polled e.clock
  | _ => exact ⟨rfl, rfl⟩

/-- The history and the recall position of a session after a turn are what its input makes of
them. -/
theorem recallsAs_turn (h : e.Orderly) (hs : e.session? id = some s) (t : Turn) :
    ∃ s', (e.turn t).session? id = some s' ∧ ((e.input? id t).elim s s.feed).RecallsAs s' := by
  have others : ∀ t : Turn, t.isOther = true →
      ∃ s', (e.turn t).session? id = some s' ∧ s.RecallsAs s' := fun t other => by
    cases hc : s.closed with
    | true => exact recallsAs_of_closed hs hc (h.ended hs hc) other
    | false =>
      obtain ⟨s', hs', becomes⟩ := becomes hs (h.ended hs) t
      exact ⟨s', hs', becomes.recallsAs hc other⟩
  cases t with
  | wait i seconds => exact others _ rfl
  | edit n => exact others _ rfl
  | clock now => exact others _ rfl
  | recalls i back =>
    by_cases hi : i = id
    · subst hi
      have input : e.input? i (.recalls i back) = some (.move back) := by simp [input?, hs]
      rw [input]
      exact ⟨_, session?_recall hs back, .refl _⟩
    · have input : e.input? id (.recalls i back) = none := by simp [input?, hi]
      rw [input]
      exact ⟨s, (session?_recall_of_ne (Ne.symm hi) back).trans hs, .refl s⟩
  | act a =>
    cases a with
    | line i text =>
      by_cases hi : i = id
      · subst hi
        obtain ⟨s', hs', recalls⟩ := recallsAs_execute hs text
        refine ⟨s', hs', ?_⟩
        rw [input?]
        cases taken : e.takes i text <;> simpa [taken] using recalls
      · have input : e.input? id (.act (.line i text)) = none := by simp [input?, hi]
        rw [input]
        exact ⟨s, (session?_execute_of_ne (Ne.symm hi) text).trans hs, .refl s⟩
    | _ => exact others _ rfl

/-! ## Any turns -/

/-- These are the inputs of a session so far.  Before it opens it has none. -/
structure Fed (e : Engine) (id : Nat) (inputs : List Input) : Prop where
  there : ∀ {s : Session}, e.session? id = some s → s.Recalls inputs
  before : e.session? id = none → inputs = []

theorem fed_turn (h : e.Orderly) {xs : List Input} (fed : e.Fed id xs) (t : Turn) :
    (e.turn t).Fed id (xs ++ (e.input? id t).toList) := by
  cases hs : e.session? id with
  | some s =>
    obtain ⟨s', hs', recalls⟩ := recallsAs_turn h hs t
    refine ⟨fun {x} hx => ?_, fun none => ?_⟩
    · obtain rfl := Option.some.inj (hs'.symm.trans hx)
      cases hi : e.input? id t with
      | none =>
        rw [hi] at recalls
        rw [Option.toList_none, List.append_nil]
        exact (fed.there hs).congr recalls
      | some i =>
        rw [hi] at recalls
        exact ((fed.there hs).feed i).congr recalls
    · rw [none] at hs'
      cases hs'
  | none =>
    rw [fed.before hs, input?_of_none hs]
    refine ⟨fun {x} hx => ?_, fun _ => rfl⟩
    obtain ⟨uid, d, -, -, -, rfl⟩ := opens_of_none hs hx
    exact Session.recalls_nil rfl rfl

theorem fed_turns (h : e.Orderly) {xs : List Input} (fed : e.Fed id xs) (ts : List Turn) :
    (e.turns ts).Fed id (xs ++ inputs id e ts) := by
  induction ts generalizing e xs with
  | nil => exact (List.append_nil xs).symm ▸ fed
  | cons t ts ih =>
    rw [turns_cons, inputs, ← List.append_assoc]
    exact ih (orderly_turn h t) (fed_turn h fed t)

theorem fed_of_no_session (h : e.sessions = []) (id : Nat) : e.Fed id [] where
  there := by
    intro s hs
    rw [session?, h] at hs
    cases hs
  before _ := rfl

/-! ## What is recalled -/

/-- How a session that had these inputs recalls its lines, and what a step of recall and a line make
of it. -/
structure RecallsLines (e : Engine) (id : Nat) (s : Session) (inputs : List Input) : Prop where
  /-- the history is the lines that were taken and are not blank, in order -/
  history : s.history = inputs.filterMap Input.recorded?
  /-- a line that is recalled is one of them -/
  within : ∀ k, s.cursor = some k → k < s.history.length
  /-- recall stands where a clamped count of the steps since the last line that was taken does -/
  position : s.position =
    (Input.stepsSince inputs).foldl (Session.clamped s.history.length) 0
  /-- the next step shows the line one step back or forward, within the same bounds -/
  answers : ∀ back, Session.Shown s.history (Session.clamped s.history.length s.position back)
    (s.recallAnswer back)
  /-- and takes recall there, and changes nothing else of the session -/
  moves : ∀ back, ∃ s', (e.turn (.recalls id back)).session? id = some s' ∧
    s'.position = Session.clamped s.history.length s.position back ∧
    { s' with cursor := s.cursor } = s
  /-- a line that is taken ends recall, and goes into the history unless it is blank -/
  takes : ∀ text, e.takes id text = true → ∃ s', (e.execute id text).2.session? id = some s' ∧
    s'.history = s.history ++ (Input.line (Text.trim text)).recorded?.toList ∧ s'.cursor = none
  /-- a line that is refused, or is given to a session that is closed, does neither -/
  refuses : ∀ text, e.takes id text = false → ∃ s', (e.execute id text).2.session? id = some s' ∧
    s'.history = s.history ∧ s'.cursor = s.cursor

/-- However turns follow one another from an engine without sessions, a session recalls the lines
that it took, by a count of steps that is clamped to their number. -/
theorem recallsLines_of_turns (h : e.sessions = []) (ts : List Turn)
    (hs : (e.turns ts).session? id = some s) :
    (e.turns ts).RecallsLines id s (inputs id e ts) := by
  have recalls : s.Recalls (inputs id e ts) :=
    (fed_turns (orderly_of_no_session h) (fed_of_no_session h id) ts).there hs
  generalize e.turns ts = e' at hs
  refine { history := recalls.history, within := ?_, position := recalls.position,
           answers := ?_, moves := ?_, takes := ?_, refuses := ?_ }
  · intro k hk
    have le := recalls.position_le
    rw [Session.position_of_some hk] at le
    exact le
  · exact fun back => (Session.shown_recallStep recalls.position_le back).2
  · intro back
    refine ⟨_, session?_recall hs back, (Session.shown_recallStep recalls.position_le back).1, ?_⟩
    obtain ⟨cursor, moved⟩ := s.recallStep_eq back
    rw [moved]
  · intro text taken
    obtain ⟨s', hs', recallsAs⟩ := recallsAs_execute hs text
    rw [if_pos taken] at recallsAs
    refine ⟨s', hs', ?_, ?_⟩
    · rw [recallsAs.history, Session.history_feed]
    · rw [recallsAs.cursor, Session.cursor_feed_line]
  · intro text refused
    obtain ⟨s', hs', recallsAs⟩ := recallsAs_execute hs text
    rw [refused, if_neg Bool.false_ne_true] at recallsAs
    exact ⟨s', hs', recallsAs.history, recallsAs.cursor⟩

/-- A blank line ends recall, and a line that is refused while the device boots does not. -/
theorem recallsLines_of_turns_reload :
    let e : Engine :=
      { network := Network.build [.addDevice { uid := "S1", kind := .text "SWITCH_L2" }]
        bootDelay := usualBootDelay }
    let ts : List Turn := [.act (.opens "S1"), .recalls 0 true, .act (.line 0 "enable"),
      .act (.line 0 " show version "), .recalls 0 true, .recalls 0 true, .recalls 0 true,
      .act (.line 0 "  "), .recalls 0 false, .act (.line 0 "reload"), .recalls 0 true,
      .act (.line 0 "disable"), .recalls 0 true]
    e.sessions = [] ∧ ∃ s, (e.turns ts).session? 0 = some s ∧
      (e.turns ts).RecallsLines 0 s (inputs 0 e ts) ∧
      s.history = ["enable", "show version", "reload"] ∧
      Input.stepsSince (inputs 0 e ts) = [true, true] ∧ s.position = 2 ∧
      s.recallAnswer true = "enable" ∧ s.recallAnswer false = "reload" ∧
      (e.turns ts).takes 0 "disable" = false := by
  intro e ts
  have found : ((e.turns ts).session? 0).map (fun s =>
      (s.history, s.position, s.recallAnswer true, s.recallAnswer false)) =
      some (["enable", "show version", "reload"], 2, "enable", "reload") := by decide +kernel
  obtain ⟨s, hs, h⟩ := Option.map_eq_some_iff.1 found
  simp only [Prod.mk.injEq] at h
  exact ⟨rfl, s, hs, recallsLines_of_turns (e := e) rfl ts hs, h.1, by decide +kernel, h.2.1,
    h.2.2.1, h.2.2.2, by decide +kernel⟩

end Engine

end NetLab
