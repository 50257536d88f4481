import NetLab.Proofs.Engine.Lifetime

set_option autoImplicit false

/-!
# The reload window

A line that restarts the device sets a time at which the device will have booted.  Before that time
every line is refused, and the session stands where it stood; the first line or poll from then on
finds the session in user mode, with the boot banner and the hints that wait on its screen.  In
between it may be closed, by itself or by another session that opens on the device, and then it
never boots.  The network has no part in any of this.
-/

namespace NetLab

/-! ## Time -/

namespace Double

theorem le_trans {a b c : Double} (hab : a.le b = true) (hbc : b.le c = true) :
    a.le c = true := by
  cases a <;> cases b <;> cases c <;> simp only [le] at hab hbc ⊢ <;> grind

theorem lt_of_le_of_lt {a b c : Double} (hab : a.le b = true) (hbc : b.lt c = true) :
    a.lt c = true := by
  rw [lt, Bool.and_eq_true, Bool.not_eq_true'] at hbc ⊢
  refine ⟨le_trans hab hbc.1, ?_⟩
  by_contra back
  have : c.le b = true := le_trans (by simpa using back) hab
  exact absurd (this.symm.trans hbc.2) (by decide)

/-- A time before another one is not at or after it. -/
theorem le_eq_false_of_lt {a b : Double} (h : a.lt b = true) : b.le a = false := by
  rw [lt, Bool.and_eq_true, Bool.not_eq_true'] at h
  exact h.2

end Double

/-! ## The line that restarts the device -/

namespace Session

variable {t : Timing} {n : Network} {p : Session} {line : String}

/-- The session once a line restarted its device at a time. -/
def restarted (p : Session) (line : String) (deadline : Double) : Session :=
  (p.enterLine line).halt deadline

/-- A line that means a restart, from under any number of `do`s, leaves the session where it stands,
with an empty screen, until the device will have booted. -/
theorem taking_reload (hopen : p.closed = false)
    (h : (p.meaning? line).bind (·.action?) = some .reload) :
    p.taking t n line = ⟨.ok {}, n, p.restarted line (t.now.add t.bootDelay),
      [⟨p.uid, .command line p.mode⟩, ⟨p.uid, .reload t.bootDelay⟩]⟩ := by
  obtain ⟨m, hm, action⟩ := Option.bind_eq_some_iff.1 h
  rw [meaning?, Option.ite_none_left_eq_some] at hm
  obtain ⟨taken, hm⟩ := hm
  have isMeant : Command.meaning p.mode (Text.words line) = m := Option.some.inj hm
  obtain ⟨⟨booted, key⟩, notBlank⟩ : (p.booting = false ∧ p.mode.isKey = true) ∧ line ≠ "" := by
    simpa using taken
  have outcome : ({ network := n, session := p.enterLine line } : Console).carryOut t m =
      .done "" ⟨n, p.restarted line (t.now.add t.bootDelay), [⟨p.uid, .reload t.bootDelay⟩]⟩ := by
    cases m with
    | refused r => cases action
    | plain a args =>
      obtain rfl : a = .reload := Option.some.inj action
      rfl
    | privileged a args =>
      obtain rfl : a = .reload := Option.some.inj action
      rfl
  have isOpen : ¬ (p.restarted line (t.now.add t.bootDelay)).closed = true := by
    simp [restarted, halt, enterLine, takeLine, print, hopen]
  rw [taking, booted, key, if_neg Bool.false_ne_true, if_neg (by decide), if_neg notBlank]
  dsimp only
  rw [isMeant, outcome, Outcome.upshot, if_neg isOpen]
  rfl

end Session

namespace Engine

variable {e : Engine} {id : Nat} {s s' s₁ : Session} {d : Double} {line : String}

/-- A line that comes to an action is given to an open session. -/
theorem exists_open_of_action? {a : Action} (h : e.action? id line = some a) :
    ∃ s, e.session? id = some s ∧ s.closed = false ∧
      ((s.polled e.clock).meaning? (Text.trim line)).bind (·.action?) = some a := by
  obtain hall | ⟨s, hs, hopen⟩ := closed_or_open e id
  · obtain ⟨m, hm, -⟩ := Option.bind_eq_some_iff.1 h
    rw [meaning?] at hm
    split at hm
    · cases hm
    · obtain ⟨x, taken, -⟩ := Option.map_eq_some_iff.1 hm
      exact absurd hall (not_closed_of_taker? taken)
  · rw [action?, meaning?_of_open hs hopen] at h
    exact ⟨s, hs, hopen, h⟩

/-! ## Until the device has booted -/

/-- The session stands where the restart left it, or it is closed. -/
def Halted (s₁ : Session) (s : Session) : Prop :=
  s.closed = false →
    s = { s₁ with transcript := s.transcript, hints := s.hints, cursor := s.cursor }

/-- The clock never goes back over the turns. -/
def onward (e : Engine) : List Turn → Bool
  | [] => true
  | t :: ts => e.clock.le (e.turn t).clock && (e.turn t).onward ts

/-- The turn finishes a boot of the session if it is due: it is a line or a poll. -/
def Turn.wakes (id : Nat) : Turn → Bool
  | .act (.line i _) | .act (.poll i) => i = id
  | _ => false

/-- No line and no poll comes to the session at the time or after it. -/
def early (id : Nat) (d : Double) (e : Engine) : List Turn → Bool
  | [] => true
  | t :: ts => (!t.wakes id || e.clock.lt d) && (e.turn t).early id d ts

/-- Where the clock never goes back, nothing that happens before a time comes at or after it. -/
theorem early_of_onward {ts : List Turn} (steady : e.onward ts = true)
    (before : (e.turns ts).clock.lt d = true) :
    e.early id d ts = true ∧ e.clock.lt d = true := by
  induction ts generalizing e with
  | nil => exact ⟨rfl, before⟩
  | cons t ts ih =>
    rw [onward, Bool.and_eq_true] at steady
    obtain ⟨soon, next⟩ := ih steady.2 before
    have now : e.clock.lt d = true := Double.lt_of_le_of_lt steady.1 next
    rw [early, now, Bool.or_true, Bool.true_and]
    exact ⟨soon, rfl⟩

theorem not_due_of_lt (booting : s.deadline = some d) {now : Double} (before : now.lt d = true) :
    s.due now = false := by
  rw [Session.due, booting]
  exact Double.le_eq_false_of_lt before

/-- Before its device has booted, a session that is looked at shows the hints that wait. -/
theorem polled_of_lt (booting : s.deadline = some d) {now : Double} (before : now.lt d = true) :
    s.polled now = s.showHints := by
  rw [Session.polled, Session.woken_of_not_due (not_due_of_lt booting before)]

/-- A line that is given to a session before its device has booted is refused. -/
theorem upshot_of_lt {t : Timing} {n : Network} (booting : s.deadline = some d)
    (before : t.now.lt d = true) :
    s.upshot t n line = ⟨.ok { refused := true }, n, s.showHints, s.hintNotices⟩ := by
  have halted : s.showHints.booting = true := congrArg Option.isSome booting
  rw [Session.upshot, polled_of_lt booting before, Session.taking, if_pos halted, Upshot.after,
    List.append_nil]

/-- What is on the screen, what waits, and what was recalled does not matter. -/
theorem halted_of_screen (h : Halted s₁ s) (transcript hints : List String)
    (cursor : Option Nat) : Halted s₁ { s with transcript, hints, cursor } := by
  intro hopen
  rw [h hopen]

theorem Becomes.halted {t : Turn} (h : Becomes e id s t s') (start : Halted s₁ s)
    (booting : s₁.deadline = some d) (soon : (!t.wakes id || e.clock.lt d) = true) :
    Halted s₁ s' := by
  have isBooting : s.closed = false → s.deadline = some d := fun hopen => by
    rw [start hopen]
    exact booting
  have shown : Halted s₁ s.showHints := halted_of_screen start _ _ _
  cases h with
  | stays _ _ => exact start
  | receives _ _ => exact halted_of_screen start _ _ _
  | closes _ _ _ => exact fun hopen => by cases hopen
  | spent closed _ _ => exact fun hopen => absurd (closed.symm.trans hopen) (by decide)
  | recalls _ _ _ => exact halted_of_screen start _ _ _
  | line isOpen text =>
    have before : e.clock.lt d = true := by simpa [Turn.wakes] using soon
    rw [upshot_of_lt (isBooting isOpen) before]
    change Halted s₁ (s.showHints.print [])
    rwa [Session.print_nil]
  | poll isOpen =>
    have before : e.clock.lt d = true := by simpa [Turn.wakes] using soon
    rw [polled_of_lt (isBooting isOpen) before]
    exact shown
  | drain _ => exact shown
  | wait _ _ => exact shown

/-- Until the device has booted, the session stands where the restart left it, or it is closed. -/
theorem halted_turns (booting : s₁.deadline = some d) (hs : e.session? id = some s)
    (start : Halted s₁ s) (ended : s.closed = true → s.deadline = none) (ts : List Turn)
    (soon : e.early id d ts = true) :
    ∃ s', (e.turns ts).session? id = some s' ∧ Halted s₁ s' := by
  induction ts generalizing e s with
  | nil => exact ⟨s, hs, start⟩
  | cons t ts ih =>
    obtain ⟨s', hs', becomes⟩ := becomes hs ended t
    rw [early, Bool.and_eq_true] at soon
    exact ih hs' (becomes.halted start booting soon.1) (becomes.ended ended) soon.2

/-! ## The window -/

/-- What holds of a session and its engine until the first line or poll at the time at which the
device will have booted, or after it, where the restart left this session. -/
structure Window (e : Engine) (id : Nat) (s₁ : Session) (d : Double) : Prop where
  /-- an open session is what the restart left, but for its screen, the hints that wait, and the
  recall position if lines were recalled -/
  stands : ∀ s, e.session? id = some s → s.closed = false →
    s = { s₁ with transcript := s.transcript, hints := s.hints, cursor := s.cursor }
  /-- before the time every line is refused; a line or a poll shows the hints that wait, and does
  nothing else -/
  refuses : ∀ s, e.session? id = some s → s.closed = false → e.clock.lt d = true →
    e.poll id = (e.drain id).2 ∧
      (∀ text, e.execute id text = (.ok { refused := true }, (e.drain id).2)) ∧
      (e.drain id).2.session? id = some { s with
        transcript := s.transcript ++ s.hints.map (hintMark ++ ·)
        hints := [] }
  /-- the first line or poll at the time or after it finds the session started over, with the boot
  banner and the hints that wait on its screen; a line is then carried out there -/
  boots : ∀ s, e.session? id = some s → s.closed = false → d.le e.clock = true →
    (e.poll id).session? id = some { s with
      place := {}
      deadline := none
      transcript := Session.bootBanner :: s.hints.map (hintMark ++ ·)
      hints := [] } ∧
    ∀ text, e.execute id text = (e.poll id).execute id text
  /-- a session that is closed never boots: it stays as it is, but for the hints that wait in it and
  the recall position, and takes no line -/
  closes : ∀ s, e.session? id = some s → s.closed = false → ∀ us,
    ∃ hints cursor, ((e.close id).turns us).session? id =
        some { s with closed := true, deadline := none, hints, cursor } ∧
      ∀ text, ((e.close id).turns us).execute id text =
        (.ok { closed := true }, (e.close id).turns us)
  /-- neither a look nor the boot changes the network -/
  network : (e.poll id).network = e.network ∧ (e.drain id).2.network = e.network

theorem window_of_halted (booting : s₁.deadline = some d)
    (halted : ∀ s, e.session? id = some s → Halted s₁ s) : e.Window id s₁ d where
  stands s hs hopen := halted s hs hopen
  refuses := by
    intro s hs hopen before
    have isBooting : s.deadline = some d := by
      rw [halted s hs hopen]
      exact booting
    refine ⟨?_, fun text => ?_, ?_⟩
    · rw [poll_of_open hs hopen, drain_of_open hs hopen, polled_of_lt isBooting before]
    · rw [execute_of_open hs hopen, drain_of_open hs hopen, upshot_of_lt isBooting before,
        settle_of_still rfl rfl rfl hopen]
    · rw [drain_of_open hs hopen]
      exact session?_put hs _ _
  boots := by
    intro s hs hopen now
    have isBooting : s.deadline = some d := by
      rw [halted s hs hopen]
      exact booting
    have due : s.due e.clock = true := by
      rw [Session.due, isBooting]
      exact now
    refine ⟨?_, fun text => (execute_poll hs hopen text).symm⟩
    rw [poll_of_open hs hopen, session?_put hs, Session.polled, Session.woken, if_pos due]
    rfl
  closes := by
    intro s hs hopen us
    obtain ⟨hints, cursor, later⟩ :=
      session?_turns_of_closed (session?_close hs hopen) rfl rfl us
    exact ⟨hints, cursor, later, fun text => execute_of_closed (all_closed_of_closed later rfl)⟩
  network := ⟨network_poll e id, network_drain e id⟩

/-- After a line that restarts the device, in whatever mode and from under any number of `do`s: the
network is as before, and the session stands where it stood when the line was typed, with an empty
screen; and until the first line or poll at the time at which the device will have booted, or after
it, the window is open.  Where the clock never goes back, that is so at every moment before the
time. -/
theorem reload_window (h : e.action? id line = some .reload) :
    let d := e.clock.add e.bootDelay
    let e₁ := (e.execute id line).2
    (e.execute id line).1 = .ok {} ∧ e₁.network = e.network ∧
      ∃ s s₁, (e.poll id).session? id = some s ∧ e₁.session? id = some s₁ ∧
        s₁ = { s with
          history := s.history ++ [Text.trim line]
          cursor := none
          transcript := []
          deadline := some d } ∧
        s₁.closed = false ∧
        (∀ ts, e₁.early id d ts = true → (e₁.turns ts).Window id s₁ d) ∧
        ∀ ts, e₁.onward ts = true → (e₁.turns ts).clock.lt d = true →
          (e₁.turns ts).Window id s₁ d := by
  intro d e₁
  obtain ⟨s, hs, hopen, meant⟩ := exists_open_of_action? h
  have isOpen : (s.polled e.clock).closed = false := Session.polled_closed.trans hopen
  have executed := execute_of_open hs hopen line
  dsimp only at executed
  rw [Session.upshot, Session.taking_reload isOpen meant, settle_of_still rfl rfl rfl isOpen] at executed
  have there : e₁.session? id = some ((s.polled e.clock).restarted (Text.trim line) d) := by
    subst e₁
    rw [executed]
    exact session?_put hs _ _
  have opened : ∀ ts, e₁.early id d ts = true →
      (e₁.turns ts).Window id ((s.polled e.clock).restarted (Text.trim line) d) d := by
    intro ts soon
    have start : Halted ((s.polled e.clock).restarted (Text.trim line) d)
        ((s.polled e.clock).restarted (Text.trim line) d) := fun _ => rfl
    obtain ⟨s', hs', halted⟩ := halted_turns rfl there start
      (fun closed => absurd (closed.symm.trans isOpen) (by decide)) ts soon
    refine window_of_halted rfl fun x hx => ?_
    obtain rfl := Option.some.inj (hs'.symm.trans hx)
    exact halted
  refine ⟨congrArg Prod.fst executed, ?_, s.polled e.clock, _, ?_, there, rfl, isOpen, opened,
    fun ts steady before => opened ts (early_of_onward steady before).1⟩
  · subst e₁
    rw [executed]
    rfl
  · rw [poll_of_open hs hopen]
    exact session?_put hs _ _

/-- A switch is restarted from configuration mode.  A line a second later is refused, and the first
poll once three have passed finds the session in user mode. -/
theorem reload_window_under_do :
    let e : Engine :=
      { network := Network.empty
        sessions := [{ uid := "S1", hostname := .text "S1", place := { mode := .config } }]
        bootDelay := usualBootDelay }
    let e₁ := (e.execute 0 "do reload").2
    let ts : List Turn := [.act (.pass (Double.ofInt 1)), .act (.line 0 "exit")]
    let us : List Turn :=
      [.act (.pass (Double.ofInt 1)), .act (.line 0 "exit"), .clock (Double.ofInt 3)]
    e.action? 0 "do reload" = some .reload ∧ e₁.onward ts = true ∧
      (∃ s, (e₁.turns ts).session? 0 = some s ∧ s.mode = .config) ∧
      ((e₁.turns ts).execute 0 "exit").1 = .ok { refused := true } ∧
      ∃ s, ((e₁.turns us).poll 0).session? 0 = some s ∧ s.mode = .user ∧
        s.transcript = [Session.bootBanner] := by
  intro e e₁ ts us
  have reloads : e.action? 0 "do reload" = some .reload := by decide +kernel
  obtain ⟨-, -, s, s₁, -, -, -, -, opened, opened'⟩ := reload_window reloads
  have facts : (e₁.onward ts = true ∧ (e₁.turns ts).clock.lt (e.clock.add e.bootDelay) = true) ∧
      (e₁.early 0 (e.clock.add e.bootDelay) us = true ∧
        (e.clock.add e.bootDelay).le (e₁.turns us).clock = true) ∧
      ((e₁.turns ts).session? 0).map (fun s => (s.closed, s.mode)) = some (false, .config) ∧
      ((e₁.turns us).session? 0).map (fun s => (s.closed, s.hints)) = some (false, []) := by
    decide +kernel
  obtain ⟨⟨steady, before⟩, ⟨soon, after⟩, there, later⟩ := facts
  obtain ⟨x, hx, h⟩ := Option.map_eq_some_iff.1 there
  obtain ⟨hopen, hmode⟩ := Prod.mk.inj h
  obtain ⟨y, hy, h⟩ := Option.map_eq_some_iff.1 later
  obtain ⟨hopen', hhints⟩ := Prod.mk.inj h
  have refused := ((opened' ts steady before).refuses x hx hopen before).2.1 "exit"
  have booted := ((opened us soon).boots y hy hopen' after).1
  rw [hhints] at booted
  exact ⟨reloads, steady, ⟨x, hx, hmode⟩, congrArg Prod.fst refused, _, booted, rfl, rfl⟩

end Engine

end NetLab
