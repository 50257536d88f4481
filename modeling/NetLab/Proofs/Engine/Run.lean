import NetLab.Proofs.Engine.Line

set_option autoImplicit false

/-!
# Runs of an engine

A run is a sequence of what can happen to an engine whose network is changed by its lines only:
sessions open and close, lines are executed, sessions are looked at, hints are shown, the advisor
answers, and time passes.  For each of these this module says what becomes of the network and of the
standings of the sessions; lines are the subject of `Proofs.Engine.Line`.
-/

namespace NetLab.Engine

/-- What can happen to an engine. -/
inductive Act where
  | opens (uid : String)
  | line (id : Nat) (text : String)
  | poll (id : Nat)
  | close (id : Nat)
  | drain (id : Nat)
  | answer (k : Nat) (a : Advice)
  | pass (seconds : Double)

/-- The engine after something happened. -/
def act (e : Engine) : Act → Engine
  | .opens uid =>
    match e.openSession uid with
    | .ok p => p.2
    | .error _ => e
  | .line id text => (e.execute id text).2
  | .poll id => e.poll id
  | .close id => e.close id
  | .drain id => (e.drain id).2
  | .answer k a => e.answer k a
  | .pass seconds => e.advance seconds

/-- The engine after a sequence of things happened. -/
def run (e : Engine) (acts : List Act) : Engine := acts.foldl act e

/-- What holds of the engine at the start and is kept by whatever happens holds after every run. -/
theorem run_induction {P : Engine → Prop} {e : Engine} (start : P e)
    (step : ∀ e a, P e → P (e.act a)) (acts : List Act) : P (e.run acts) := by
  induction acts generalizing e with
  | nil => exact start
  | cons a acts ih => exact ih (step e a start)

variable {e : Engine} {id : Nat}

/-! ## Answers of the advisor -/

@[simp] theorem network_receive (e : Engine) (q : Question) (a : Advice) :
    (e.receive q a).network = e.network := by
  rw [receive]
  split
  · rfl
  · split
    · rfl
    · rfl
    · dsimp only
      split <;> rfl

@[simp] theorem standings_receive (e : Engine) (q : Question) (a : Advice) :
    (e.receive q a).standings = e.standings := by
  rw [receive]
  split
  · rfl
  · next s hs =>
    split
    · rfl
    · rfl
    · dsimp only
      split
      · rfl
      · rw [standings_setSession]
        exact set_standing hs rfl

@[simp] theorem network_answer (e : Engine) (k : Nat) (a : Advice) :
    (e.answer k a).network = e.network := by
  rw [answer]
  split
  · exact network_receive _ _ _
  · rfl

@[simp] theorem standings_answer (e : Engine) (k : Nat) (a : Advice) :
    (e.answer k a).standings = e.standings := by
  rw [answer]
  split
  · exact standings_receive _ _ _
  · rfl

/-! ## Opening and closing -/

/-- Closing a session that is open ends it. -/
theorem close_of_open {s : Session} (hs : e.session? id = some s) (hopen : s.closed = false) :
    (e.close id).network = e.network ∧
      (e.close id).standings = e.standings.set id s.standing.close := by
  rw [close, hs]
  dsimp only
  rw [hopen, if_neg Bool.false_ne_true]
  refine ⟨rfl, ?_⟩
  rw [standings_tell, standings_follow, standings_setSession, Session.standing_close]

/-- A closed session, or one that is not there, is not closed again. -/
theorem close_of_closed (h : (e.session? id).all (·.closed) = true) : e.close id = e := by
  rw [close]
  cases hs : e.session? id with
  | none => rfl
  | some s =>
    rw [hs, Option.all_some] at h
    exact if_pos h

@[simp] theorem network_close (e : Engine) (id : Nat) : (e.close id).network = e.network := by
  obtain hall | ⟨s, hs, hopen⟩ := closed_or_open e id
  · rw [close_of_closed hall]
  · exact (close_of_open hs hopen).1

/-- Opening a session on a device closes the one that stands for it, and adds a session that stands
at the start. -/
theorem openSession_eq_ok {uid : String} {e' : Engine} (h : e.openSession uid = .ok (id, e')) :
    ∃ d, e.network.device? uid = some d ∧ e'.network = e.network ∧
      e'.standings = ((e.sessionFor? d.uid).elim e e.close).standings ++
        [(Session.start d.uid d.kind.name d.hostname).standing] := by
  obtain ⟨d, hd, h⟩ := bind_eq_ok_iff.1 h
  refine ⟨d, Network.device_eq_ok_iff.1 hd, ?_⟩
  obtain ⟨-, rfl⟩ := Prod.mk.inj (pure_eq_ok_iff.1 h)
  constructor
  · rw [network_tell]
    cases e.sessionFor? d.uid with
    | none => rfl
    | some id => exact network_close e id
  · rw [standings_tell, standings, List.map_append]
    rfl

/-- Only lines change the network. -/
theorem network_act {a : Act} (h : ∀ id text, a ≠ .line id text) :
    (e.act a).network = e.network := by
  cases a with
  | opens uid =>
    rw [act]
    split
    · next p hp =>
      obtain ⟨d, -, same, -⟩ := openSession_eq_ok hp
      exact same
    · rfl
  | line id text => exact absurd rfl (h id text)
  | poll id => exact network_poll e id
  | close id => exact network_close e id
  | drain id => exact network_drain e id
  | answer k a => exact network_answer e k a
  | pass seconds => rfl

end NetLab.Engine
