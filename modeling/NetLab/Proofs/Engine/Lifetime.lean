import NetLab.Proofs.Engine.Registry
import NetLab.Proofs.Network.Build

set_option autoImplicit false

/-!
# The life of a session

A session opens on a device, and the one that stood for the device is closed.  Closing is final:
whatever happens afterwards leaves a closed session as it is, but for the recall position and the
hints that come too late to be shown, and whatever is done to a closed session reaches nothing else.
At any time, the session that stands for a device is the open one on it.
-/

namespace NetLab.Engine

variable {e : Engine} {id : Nat} {s : Session}

/-! ## Closed sessions -/

/-- A closed session stays as it is over any turns, but for the hints that wait in it and the recall
position. -/
theorem session?_turns_of_closed (hs : e.session? id = some s) (closed : s.closed = true)
    (ended : s.deadline = none) (ts : List Turn) :
    ∃ hints cursor, (e.turns ts).session? id = some { s with hints, cursor } := by
  induction ts generalizing e s with
  | nil => exact ⟨s.hints, s.cursor, hs⟩
  | cons t ts ih =>
    obtain ⟨s', hs', becomes⟩ := becomes hs (fun _ => ended) t
    obtain ⟨hints, cursor, rfl⟩ := becomes.of_closed closed
    have later := ih (s := { s with hints, cursor }) hs' closed ended
    exact later

/-! ## What holds at any time -/

/-- Sessions live once: on a device one is open at most, and a closed one is closed for good. -/
structure Lifetimes (e : Engine) : Prop where
  /-- no two open sessions stand on one device -/
  alone : ∀ i j a b, e.session? i = some a → e.session? j = some b → a.closed = false →
    b.closed = false → a.uid = b.uid → i = j
  /-- the session that stands for a device is the open one on it, and if there is none, none
  stands for it -/
  found : ∀ uid id, e.sessionFor? uid = some id ↔
    ∃ s, e.session? id = some s ∧ s.uid = uid ∧ s.closed = false
  /-- whatever happens, a closed session stays as it is, but for the hints that wait in it and the
  recall position -/
  final : ∀ id s, e.session? id = some s → s.closed = true → ∀ ts,
    ∃ hints cursor, (e.turns ts).session? id = some { s with hints, cursor }
  /-- a closed session answers a line by saying that it is closed, and nothing happens -/
  spent : ∀ id s, e.session? id = some s → s.closed = true → ∀ line,
    e.execute id line = (.ok { closed := true }, e)
  /-- whatever is done to a closed session changes the hints that wait in it and the recall position
  at most -/
  harmless : ∀ id s, e.session? id = some s → s.closed = true → ∀ t, t.session? = some id →
    ∃ hints cursor, e.turn t = { e with sessions := e.sessions.set id { s with hints, cursor } }
  /-- a session opens exactly on a device that is there; otherwise nothing happens -/
  refused : ∀ uid, ((∃ f, e.openSession uid = .error f) ↔ e.network.device? uid = none) ∧
    ∀ f, e.openSession uid = .error f → e.turn (.act (.opens uid)) = e

/-- The session that stands for a device is the open one on it. -/
theorem sessionFor?_eq_some_iff (h : e.Orderly) (listed : e.IsListed) (uid : String) :
    e.sessionFor? uid = some id ↔ ∃ s, e.session? id = some s ∧ s.uid = uid ∧ s.closed = false := by
  refine ⟨listed uid id, ?_⟩
  rintro ⟨s, hs, rfl, hopen⟩
  exact h.enlisted hs hopen

/-- Opening a session fails where its device cannot be found, and there only. -/
theorem openSession_eq_error_iff (uid : String) :
    (∃ f, e.openSession uid = .error f) ↔ e.network.device? uid = none := by
  cases hd : e.network.device uid with
  | error f =>
    refine ⟨fun _ => ?_, fun _ => ⟨f, (turn_opens_of_error hd).1⟩⟩
    cases h : e.network.device? uid with
    | none => rfl
    | some d => rw [Network.device_eq_ok_iff.2 h] at hd; cases hd
  | ok d =>
    have opened : ∃ p, e.openSession uid = .ok p := by
      rw [openSession, hd]
      exact ⟨_, rfl⟩
    obtain ⟨p, hp⟩ := opened
    rw [Network.device_eq_ok_iff.1 hd, hp]
    constructor
    · rintro ⟨f, ⟨⟩⟩
    · rintro ⟨⟩

/-- However turns follow one another from an engine without sessions, on sessions old and new, the
sessions live once. -/
theorem lifetimes_of_turns (h : e.sessions = []) (fresh : e.registry = {}) (ts : List Turn) :
    (e.turns ts).Lifetimes := by
  have start : e.Orderly := orderly_of_no_session h
  have orderly : (e.turns ts).Orderly := orderly_turns start ts
  have listed : (e.turns ts).IsListed := isListed_turns start (isListed_of_empty fresh) ts
  generalize e.turns ts = e at orderly listed
  exact {
    alone := fun i j a b ha hb => orderly.alone ha hb
    found := fun uid id => sessionFor?_eq_some_iff orderly listed uid
    final := fun id s hs closed => session?_turns_of_closed hs closed (orderly.ended hs closed)
    spent := fun id s hs closed line => execute_of_closed (all_closed_of_closed hs closed)
    harmless := fun id s hs closed t => turn_of_closed hs closed (orderly.ended hs closed)
    refused := fun uid => by
      refine ⟨openSession_eq_error_iff uid, fun f hf => ?_⟩
      rw [turn, act, hf] }

/-- A session on a switch is replaced by another one.  Then the first one is polled and given a
line, and the switch goes away. -/
theorem lifetimes_of_turns_replaced :
    let e : Engine :=
      { network := Network.build [.addDevice { uid := "S1", kind := .text "SWITCH_L2" }]
        bootDelay := usualBootDelay }
    let ts : List Turn := [.act (.opens "S1"), .act (.line 0 "enable"), .act (.opens "S1"),
      .act (.poll 0), .act (.line 0 "reload"), .edit Network.empty]
    e.sessions = [] ∧ e.registry = {} ∧ (e.turns ts).Lifetimes ∧
      (e.turns ts).sessionFor? "S1" = some 1 ∧
      (e.turns ts).sessions.map Session.closed = [true, false] ∧
      (e.turns ts).turn (.act (.opens "S1")) = e.turns ts := by
  intro e ts
  have lifetimes : (e.turns ts).Lifetimes := lifetimes_of_turns rfl rfl ts
  have gone : (e.turns ts).network.device? "S1" = none := by decide +kernel
  obtain ⟨f, hf⟩ := (lifetimes.refused "S1").1.2 gone
  exact ⟨rfl, rfl, lifetimes, by decide +kernel, by decide +kernel, (lifetimes.refused "S1").2 f hf⟩

end NetLab.Engine
