import NetLab.Proofs.Console.Bare
import NetLab.Proofs.Engine.Delivery

set_option autoImplicit false

/-!
# Nobody who is asked or told has a say

Whether there is an advisor, what it answers and when, and who is told of what happens, is of no
consequence to what is simulated.  Two runs in which the same is done, with any answers in between,
agree after every step in the answers to lines, in the network, and in the sessions without their
screens.  The screens differ by lines in which hints were shown.

Both runs are compared with one in which nobody is asked and nobody is told (`Engine.Mirrors`).
-/

namespace NetLab

/-! ## Lines -/

/-- What a line comes to, without the screen of its session and without what is told. -/
def Upshot.bare (u : Upshot) : Upshot := { u with session := u.session.bare, notices := [] }

theorem Outcome.bare_upshot (typed : Session) (line : String) (o : Outcome) :
    (o.upshot typed line).bare = (o.bare.upshot typed.bare line).bare := by
  cases o with
  | done output c =>
    have closed : c.bare.session.closed = c.session.closed := rfl
    rw [upshot, bare, upshot, closed]
    split <;> rfl
  | refused r c => rfl
  | failed f c => rfl

namespace Session

variable {s s' p p' : Session} {t : Timing} {n : Network} {line : String} {clock : Double}

/-- What does not look at the screen is the same of sessions that differ in their screens. -/
theorem of_bare {α : Type} {f : Session → α} (hf : ∀ s, f s.bare = f s) (h : s'.bare = s.bare) :
    f s' = f s := by
  rw [← hf s', h, hf]

theorem closed_of_bare (h : s'.bare = s.bare) : s'.closed = s.closed :=
  of_bare (f := closed) (fun _ => rfl) h

theorem due_of_bare (h : s'.bare = s.bare) : s'.due clock = s.due clock :=
  of_bare (f := fun s => s.due clock) (fun _ => rfl) h

/-- Sessions that differ in their screens are woken alike. -/
theorem woken_of_bare (h : s'.bare = s.bare) : (s'.woken clock).bare = (s.woken clock).bare := by
  rw [woken, woken, due_of_bare h]
  split
  · exact of_bare (f := fun s => s.boot.bare) (fun _ => rfl) h
  · exact h

theorem polled_of_bare (h : s'.bare = s.bare) : (s'.polled clock).bare = (s.polled clock).bare :=
  woken_of_bare h

theorem recallStep_of_bare (h : s'.bare = s.bare) (back : Bool) :
    (s'.recallStep back).bare = (s.recallStep back).bare := by
  refine of_bare (f := fun s => (s.recallStep back).bare) (fun s => ?_) h
  obtain ⟨uid, hostname, place, history, cursor, transcript, closed, deadline, hints⟩ := s
  cases back with
  | true => cases history <;> rfl
  | false => rcases cursor with _ | _ | k <;> rfl

theorem taking_bare (p : Session) : (p.bare.taking t n line).bare = (p.taking t n line).bare := by
  have booting : p.bare.booting = p.booting := rfl
  have mode : p.bare.mode = p.mode := rfl
  rw [taking, taking, booting, mode]
  split
  · rfl
  · split
    · split <;> rfl
    · split
      · rfl
      · have carried : ∀ q : Session, (Outcome.upshot (q.enterLine line) line
            (({ network := n, session := q.enterLine line } : Console).carryOut t
              (Command.meaning p.mode (Text.words line)))).bare =
            (Outcome.upshot (q.enterLine line).bare line
              (({ network := n, session := (q.enterLine line).bare } : Console).carryOut t
                (Command.meaning p.mode (Text.words line)))).bare := fun q => by
          rw [Outcome.bare_upshot, ← Console.carryOut_bare]
          rfl
        exact (carried p.bare).trans (carried p).symm

/-- A line comes to the same in sessions that differ in their screens. -/
theorem upshot_of_bare (t : Timing) (n : Network) (line : String) (h : s'.bare = s.bare) :
    (s'.upshot t n line).bare = (s.upshot t n line).bare := by
  change ((s'.polled t.now).taking t n line).bare = ((s.polled t.now).taking t n line).bare
  rw [← taking_bare, polled_of_bare h, taking_bare]

end Session

namespace Engine

variable {e e' : Engine} {id : Nat} {s s' : Session} {t : Turn}

/-! ## Engines without screens -/

/-- The engine where nobody is asked, nobody is told, and nothing stands on the screens. -/
def bare (e : Engine) : Engine :=
  { e with
    sessions := e.sessions.map Session.bare
    advised := false
    pending := []
    listener := .silent }

theorem bare_put (e : Engine) (id : Nat) (s : Session) (ns : List Notice) :
    (e.put id s ns).bare = e.bare.setSession id s.bare := by
  simp only [bare, put, setSession, List.map_set]

theorem bare_settle (e : Engine) (id : Nat) (line : String) (u : Upshot) :
    (e.settle id line u).bare =
      { (e.bare.setSession id u.bare.session).follow id u.bare.session with
        network := u.bare.network } := by
  simp only [settle, bare, put, setSession, List.map_set]
  rfl

/-- What does not look at the screens, nor asks or tells anyone, is the same in engines that differ
in this. -/
theorem of_bare {α : Type} {f : Engine → α} (hf : ∀ e, f e.bare = f e) (h : e'.bare = e.bare) :
    f e' = f e := by
  rw [← hf e', h, hf]

/-- A session is replaced by one that differs in its screen. -/
theorem bare_put_of_bare (hs : e.session? id = some s) (s' : Session) (h : s'.bare = s.bare)
    (ns : List Notice) : (e.put id s' ns).bare = e.bare := by
  have same : e.sessions.set id s = e.sessions := by
    obtain ⟨hlt, rfl⟩ := List.getElem?_eq_some_iff.1 hs
    exact List.set_getElem_self _
  rw [bare_put, h, setSession]
  change { e.bare with sessions := (e.sessions.map Session.bare).set id s.bare } = e.bare
  rw [← List.map_set, same]
  rfl

theorem bare_drain (e : Engine) (id : Nat) : (e.drain id).2.bare = e.bare := by
  cases hs : e.session? id with
  | none => rw [drain, hs]
  | some s =>
    cases hc : s.closed with
    | true =>
      rw [drain_of_closed hs hc]
      exact bare_put_of_bare hs s.dropHints rfl []
    | false =>
      rw [drain_of_open hs hc]
      exact bare_put_of_bare hs s.showHints rfl s.hintNotices

theorem bare_poll (hs : e.session? id = some s) :
    (e.poll id).bare = e.bare.setSession id (s.woken e.clock).bare := by
  rw [poll_eq_of_woken hs, bare_drain, bare_put]

theorem bare_wait (e : Engine) (id : Nat) (seconds : Double) :
    (e.turn (.wait id seconds)).bare = e.bare := by
  rw [turn, drainWithin]
  split
  · rfl
  · exact bare_drain e id

/-! ## The same turn in engines that differ in their screens -/

section

variable (h : e'.bare = e.bare)

include h

theorem network_of_bare : e'.network = e.network :=
  of_bare (f := network) (fun _ => rfl) h

theorem clock_of_bare : e'.clock = e.clock :=
  of_bare (f := clock) (fun _ => rfl) h

theorem bootDelay_of_bare : e'.bootDelay = e.bootDelay :=
  of_bare (f := bootDelay) (fun _ => rfl) h

theorem session?_of_bare (id : Nat) :
    (e'.session? id).map Session.bare = (e.session? id).map Session.bare := by
  have found : ∀ x : Engine, (x.session? id).map Session.bare = x.bare.session? id :=
    fun x => List.getElem?_map.symm
  rw [found, found, h]

/-- A session is there in both engines, and differs in its screen. -/
theorem exists_of_bare (hs : e.session? id = some s) :
    ∃ s', e'.session? id = some s' ∧ s'.bare = s.bare := by
  have same := session?_of_bare h id
  rw [hs] at same
  exact Option.map_eq_some_iff.1 same

theorem none_of_bare (hs : e.session? id = none) : e'.session? id = none := by
  have same := session?_of_bare h id
  rw [hs] at same
  exact Option.map_eq_none_iff.1 same

/-- A session is closed or not there in both engines, or open in both. -/
theorem all_closed_of_bare (all : (e.session? id).all (·.closed) = true) :
    (e'.session? id).all (·.closed) = true := by
  cases hs : e.session? id with
  | none => rw [none_of_bare h hs]; rfl
  | some s =>
    obtain ⟨s', hs', same⟩ := exists_of_bare h hs
    rw [hs'] at ⊢
    rw [hs] at all
    exact (Session.closed_of_bare same).trans all

theorem sessionFor?_of_bare (uid : String) : e'.sessionFor? uid = e.sessionFor? uid :=
  of_bare (f := fun e => e.sessionFor? uid) (fun _ => rfl) h

/-- A line is answered alike, and leaves engines that differ in their screens. -/
theorem execute_of_bare (id : Nat) (text : String) :
    (e'.execute id text).1 = (e.execute id text).1 ∧
      (e'.execute id text).2.bare = (e.execute id text).2.bare := by
  obtain all | ⟨s, hs, hopen⟩ := closed_or_open e id
  · rw [execute_of_closed all, execute_of_closed (all_closed_of_bare h all)]
    exact ⟨rfl, h⟩
  · obtain ⟨s', hs', same⟩ := exists_of_bare h hs
    have upshots := Session.upshot_of_bare ⟨e.clock, e.bootDelay⟩ e.network (Text.trim text) same
    rw [execute_of_open hs hopen,
      execute_of_open hs' ((Session.closed_of_bare same).trans hopen), clock_of_bare h,
      bootDelay_of_bare h, network_of_bare h]
    refine ⟨(congrArg Upshot.reply upshots :), ?_⟩
    dsimp only
    rw [bare_settle, bare_settle, upshots, h]

theorem close_of_bare (id : Nat) : (e'.close id).bare = (e.close id).bare := by
  obtain all | ⟨s, hs, hopen⟩ := closed_or_open e id
  · rw [close_of_closed all, close_of_closed (all_closed_of_bare h all), h]
  · obtain ⟨s', hs', same⟩ := exists_of_bare h hs
    have closes : ∀ (x : Engine) (y : Session),
        ((x.put id y.close [⟨y.uid, .closed⟩]).follow id y.close).bare =
          (x.bare.setSession id y.bare.close).follow id y.bare.close := fun x y => by
      simp only [bare, follow, put, setSession, List.map_set]
      rfl
    rw [close_eq_put hs hopen, close_eq_put hs' ((Session.closed_of_bare same).trans hopen),
      closes, closes, h, same]

theorem opens_of_bare (uid : String) :
    (e'.turn (.act (.opens uid))).bare = (e.turn (.act (.opens uid))).bare := by
  have network := network_of_bare h
  cases hd : e.network.device uid with
  | error f => rw [(turn_opens_of_error hd).2, (turn_opens_of_error (network.symm ▸ hd)).2, h]
  | ok d =>
    have cleared : ((e'.sessionFor? d.uid).elim e' e'.close).bare =
        ((e.sessionFor? d.uid).elim e e.close).bare := by
      rw [sessionFor?_of_bare h]
      cases e.sessionFor? d.uid with
      | none => exact h
      | some k => exact close_of_bare h k
    have opened : ∀ x : Engine, { x with
        sessions := x.sessions ++ [Session.start d.uid d.kind.name d.hostname]
        registry := x.registry.enter d.uid x.sessions.length
        listener := x.listener.hear ⟨d.uid, .opened⟩ }.bare = { x.bare with
        sessions := x.bare.sessions ++ [(Session.start d.uid d.kind.name d.hostname).bare]
        registry := x.bare.registry.enter d.uid x.bare.sessions.length } :=
      fun x => by simp only [bare, List.map_append, List.map_cons, List.map_nil, List.length_map]
    rw [turn_opens hd, turn_opens (network.symm ▸ hd), opened, opened, cleared]

theorem recalls_of_bare (id : Nat) (back : Bool) :
    (e'.turn (.recalls id back)).bare = (e.turn (.recalls id back)).bare := by
  cases hs : e.session? id with
  | none => rw [turn_recall_of_none hs, turn_recall_of_none (none_of_bare h hs), h]
  | some s =>
    obtain ⟨s', hs', same⟩ := exists_of_bare h hs
    have recalled : ∀ {x : Engine} {y : Session}, x.session? id = some y →
        x.turn (.recalls id back) = x.setSession id (y.recallStep back) := fun hy => by
      rw [turn, hy]
    rw [recalled hs, recalled hs', setSession_eq_put, setSession_eq_put, bare_put, bare_put, h,
      Session.recallStep_of_bare same]

theorem poll_of_bare (id : Nat) : (e'.poll id).bare = (e.poll id).bare := by
  cases hs : e.session? id with
  | none => rw [poll_of_none hs, poll_of_none (none_of_bare h hs), h]
  | some s =>
    obtain ⟨s', hs', same⟩ := exists_of_bare h hs
    rw [bare_poll hs, bare_poll hs', h, clock_of_bare h, Session.woken_of_bare same]

end

/-! ## Runs -/

/-- The turn is an answer of the advisor. -/
def Turn.isAnswer : Turn → Bool
  | .act (.answer _ _) => true
  | _ => false

/-- An answer looks at no session. -/
theorem looksAt_of_isAnswer (h : t.isAnswer = true) (id : Nat) : t.looksAt id = false := by
  cases t with
  | act a =>
    cases a with
    | answer k a => rfl
    | _ => cases h
  | _ => cases h

/-- An answer reaches hints and the listener at most. -/
theorem turn_of_isAnswer (h : t.isAnswer = true) : (e.turn t).bare = e.bare := by
  cases t with
  | act a =>
    cases a with
    | answer k a =>
      have answered := e.brings k a
      rw [turn, act]
      generalize e.answer k a = e' at answered
      cases answered with
      | @tip i s tip there isOpen arrives only =>
        exact bare_put_of_bare there { s with hints := s.hints ++ [tip] } rfl []
      | nothing none failures => rfl
    | _ => cases h
  | _ => cases h

/-- The same turn leaves engines that differ in their screens, or in what is asked and told. -/
theorem turn_of_bare (h : e'.bare = e.bare) (t : Turn) : (e'.turn t).bare = (e.turn t).bare := by
  cases t with
  | wait i seconds => rw [bare_wait, bare_wait, h]
  | recalls i back => exact recalls_of_bare h i back
  | edit n => exact (congrArg (fun b : Engine => { b with network := n }) h :)
  | clock now => exact (congrArg (fun b : Engine => { b with clock := now }) h :)
  | act a =>
    cases a with
    | line i text => exact (execute_of_bare h i text).2
    | poll i => exact poll_of_bare h i
    | close i => exact close_of_bare h i
    | drain i => exact (bare_drain e' i).trans (h.trans (bare_drain e i).symm)
    | opens uid => exact opens_of_bare h uid
    | answer k a => rw [turn_of_isAnswer rfl, turn_of_isAnswer rfl, h]
    | pass seconds => exact (congrArg (fun b : Engine => b.advance seconds) h :)

/-- What is done in a run, without what the advisor answers. -/
def script (ts : List Turn) : List Turn := ts.filter (!·.isAnswer)

theorem script_cons_of_isAnswer (h : t.isAnswer = true) (ts : List Turn) :
    script (t :: ts) = script ts := List.filter_cons_of_neg (by simp [h])

theorem script_cons (h : t.isAnswer = false) (ts : List Turn) :
    script (t :: ts) = t :: script ts := List.filter_cons_of_pos (by simp [h])

/-- The answer to a line, if a line is given. -/
def reply? (e : Engine) : Turn → Option (Except Fault Reply)
  | .act (.line id text) => some (e.execute id text).1
  | _ => none

/-- What can be seen of a turn that is no answer of the advisor. -/
structure Sight where
  /-- the answer to the line, if a line was given -/
  reply? : Option (Except Fault Reply)
  /-- the network after the turn -/
  network : Network
  /-- the sessions after the turn, without their screens and without the hints that wait -/
  sessions : List Session

/-- What is seen of a turn. -/
def sight (e : Engine) (t : Turn) : Sight :=
  ⟨e.reply? t, (e.turn t).network, (e.turn t).sessions.map Session.bare⟩

/-- What is seen turn by turn, of all turns but the answers of the advisor. -/
def sights : Engine → List Turn → List Sight
  | _, [] => []
  | e, t :: ts => if t.isAnswer then sights (e.turn t) ts else e.sight t :: sights (e.turn t) ts

theorem sight_of_bare (h : e'.bare = e.bare) (t : Turn) : e'.sight t = e.sight t := by
  have turned := turn_of_bare h t
  have reply : e'.reply? t = e.reply? t := by
    cases t with
    | act a =>
      cases a with
      | line id text => exact congrArg some (execute_of_bare h id text).1
      | _ => rfl
    | _ => rfl
  rw [sight, sight, reply, network_of_bare turned]
  exact congrArg (fun b : Engine => Sight.mk _ _ b.sessions) turned

/-- Answers change nothing that is seen. -/
theorem sights_script (h : e'.bare = e.bare) (ts : List Turn) :
    e'.sights (script ts) = e.sights ts ∧ (e'.turns (script ts)).bare = (e.turns ts).bare := by
  induction ts generalizing e e' with
  | nil => exact ⟨rfl, h⟩
  | cons t ts ih =>
    cases answer : t.isAnswer with
    | true =>
      rw [script_cons_of_isAnswer answer, sights, if_pos answer]
      exact ih (h.trans (turn_of_isAnswer answer).symm)
    | false =>
      obtain ⟨seen, left⟩ := ih (turn_of_bare h t)
      rw [script_cons answer, sights, sights, answer, if_neg Bool.false_ne_true,
        if_neg Bool.false_ne_true, sight_of_bare h, seen]
      exact ⟨rfl, left⟩

end Engine

/-! ## Screens -/

/-- The third list is the first two in one, each in its order. -/
inductive Interleaves {α : Type} : List α → List α → List α → Prop where
  | nil : Interleaves [] [] []
  | left {x : α} {xs ys zs : List α} (rest : Interleaves xs ys zs) :
      Interleaves (x :: xs) ys (x :: zs)
  | right {y : α} {xs ys zs : List α} (rest : Interleaves xs ys zs) :
      Interleaves xs (y :: ys) (y :: zs)

namespace Interleaves

variable {α : Type} {xs ys zs xs' ys' zs' : List α}

theorem nil_right (xs : List α) : Interleaves xs [] xs := by
  induction xs with
  | nil => exact .nil
  | cons x xs ih => exact .left ih

theorem nil_left (ys : List α) : Interleaves [] ys ys := by
  induction ys with
  | nil => exact .nil
  | cons y ys ih => exact .right ih

theorem append (h : Interleaves xs ys zs) (h' : Interleaves xs' ys' zs') :
    Interleaves (xs ++ xs') (ys ++ ys') (zs ++ zs') := by
  induction h with
  | nil => exact h'
  | left _ ih => exact .left ih
  | right _ ih => exact .right ih

end Interleaves

/-- The screen is the plain one, with hints in between, which were shown last. -/
def Hinted (shown plain screen : List String) : Prop :=
  ∃ hints, hints <:+ shown ∧ Interleaves plain hints screen

namespace Hinted

variable {shown plain screen : List String}

theorem refl (shown screen : List String) : Hinted shown screen screen :=
  ⟨[], List.nil_suffix, .nil_right screen⟩

/-- Lines are shown on both screens. -/
theorem print (h : Hinted shown plain screen) (lines : List String) :
    Hinted shown (plain ++ lines) (screen ++ lines) := by
  obtain ⟨hints, suffix, interleaves⟩ := h
  exact ⟨hints, suffix, by simpa using interleaves.append (.nil_right lines)⟩

/-- Hints are shown on the one screen. -/
theorem hint (h : Hinted shown plain screen) (lines : List String) :
    Hinted (shown ++ lines) plain (screen ++ lines) := by
  obtain ⟨hints, ⟨before, rfl⟩, interleaves⟩ := h
  refine ⟨hints ++ lines, ⟨before, by rw [List.append_assoc]⟩, ?_⟩
  simpa using interleaves.append (.nil_left lines)

end Hinted

namespace Engine

variable {e e₀ : Engine} {id : Nat} {s s₀ : Session} {t : Turn} {shown : List String}

/-- The lines in which the turns show hints on the screen of a session. -/
def drained (id : Nat) : Engine → List Turn → List String
  | _, [] => []
  | e, t :: ts => (if t.looksAt id then (e.drain id).1 else []) ++ drained id (e.turn t) ts

/-- The one engine does what the other one does, and no hint comes to its session; so on the screen
it lacks hints that were shown in the other one. -/
structure Mirrors (e₀ e : Engine) (id : Nat) (shown : List String) : Prop where
  bare : e₀.bare = e.bare
  orderly : e.Orderly
  orderly₀ : e₀.Orderly
  hintless : e₀.Awaits id []
  screens : ∀ {s₀ s : Session}, e₀.session? id = some s₀ → e.session? id = some s →
    Hinted shown s₀.transcript s.transcript

/-- A turn does not show hints on a screen unless it looks at an open session. -/
theorem drained_of_unseen (hs : e.session? id = some s)
    (unseen : s.closed = true ∨ t.looksAt id = false) :
    (if t.looksAt id then (e.drain id).1 else []) = [] := by
  obtain closed | elsewhere := unseen
  · rw [drain_of_closed hs closed, ite_self]
  · rw [elsewhere, if_neg Bool.false_ne_true]

/-- Screens, one of which lacks hints, are wiped alike when a boot is due. -/
theorem hinted_woken (h : Hinted shown s₀.transcript s.transcript) (same : s₀.bare = s.bare)
    (clock : Double) : Hinted shown (s₀.woken clock).transcript (s.woken clock).transcript := by
  rw [Session.woken, Session.woken, Session.due_of_bare same]
  split
  · exact .refl shown _
  · exact h

/-- A look at sessions shows hints in the one where some wait. -/
theorem hinted_of_looks (h : e₀.bare = e.bare) (hs : e.session? id = some s)
    (hs₀ : e₀.session? id = some s₀) (same : s₀.bare = s.bare) (hopen : s.closed = false)
    (hintless : s₀.hints = []) (screens : Hinted shown s₀.transcript s.transcript)
    (looks : t.looksAt id = true) :
    ∃ s₀' s', (e₀.turn t).session? id = some s₀' ∧ (e.turn t).session? id = some s' ∧
      Hinted (shown ++ s.hintLines) s₀'.transcript s'.transcript := by
  have hopen₀ : s₀.closed = false := (Session.closed_of_bare same).trans hopen
  have none : s₀.hintLines = [] := by rw [Session.hintLines, hintless, List.map_nil]
  have awake := hinted_woken screens same e.clock
  have shownHints :
      Hinted (shown ++ s.hintLines) s₀.showHints.transcript s.showHints.transcript := by
    change Hinted _ (s₀.transcript ++ s₀.hintLines) (s.transcript ++ s.hintLines)
    rw [none, List.append_nil]
    exact screens.hint s.hintLines
  have drained : ∀ {x : Engine} {y : Session}, x.session? id = some y → y.closed = false →
      (x.drain id).2.session? id = some y.showHints := fun hy hopen => by
    rw [drain_of_open hy hopen]
    exact session?_put hy _ _
  cases t with
  | wait i seconds =>
    obtain ⟨rfl, taken⟩ : i = id ∧ seconds.isNegative = false := by
      simpa [Turn.looksAt] using looks
    rw [turn_wait_of_open hs hopen, turn_wait_of_open hs₀ hopen₀, taken]
    exact ⟨_, _, drained hs₀ hopen₀, drained hs hopen, shownHints⟩
  | recalls i back => cases looks
  | edit n => cases looks
  | clock now => cases looks
  | act a =>
    cases a with
    | line i text =>
      obtain rfl : i = id := by simpa [Turn.looksAt] using looks
      obtain ⟨s', hs', screen⟩ := transcript_execute hs hopen text
      obtain ⟨s₀', hs₀', screen₀⟩ := transcript_execute hs₀ hopen₀ text
      refine ⟨s₀', s', hs₀', hs', ?_⟩
      have polled : (s₀.polled e.clock).bare = (s.polled e.clock).bare :=
        Session.polled_of_bare same
      have wipes : (e₀.action? i text).any Action.wipes = (e.action? i text).any Action.wipes := by
        rw [wipes_of_open hs hopen, wipes_of_open hs₀ hopen₀, clock_of_bare h]
        exact Session.of_bare (f := fun p => p.wipes (Text.trim text)) (fun _ => rfl) polled
      have echo : (s₀.polled e.clock).echo (Text.trim text) =
          (s.polled e.clock).echo (Text.trim text) :=
        Session.of_bare (f := fun p => p.echo (Text.trim text)) (fun _ => rfl) polled
      rw [screen, screen₀, wipes, (execute_of_bare h i text).1, clock_of_bare h, echo, none,
        List.append_nil]
      refine Hinted.print ?_ _
      split
      · exact .refl _ _
      · exact (awake.hint s.hintLines).print _
    | poll i =>
      obtain rfl : i = id := by simpa [Turn.looksAt] using looks
      refine ⟨_, _, session?_poll hs₀ hopen₀, session?_poll hs hopen, ?_⟩
      rw [Session.polled_transcript, Session.polled_transcript, none, List.append_nil,
        clock_of_bare h]
      exact awake.hint s.hintLines
    | drain i =>
      obtain rfl : i = id := by simpa [Turn.looksAt] using looks
      exact ⟨_, _, drained hs₀ hopen₀, drained hs hopen, shownHints⟩
    | opens uid => cases looks
    | close i => cases looks
    | answer k a => cases looks
    | pass seconds => cases looks

/-- No tip comes with a turn that is no answer. -/
theorem arrival?_of_script (notAnswer : t.isAnswer = false) (id : Nat) :
    e.arrival? id t = none := by
  by_contra some
  obtain ⟨tip, arrives⟩ := Option.ne_none_iff_exists'.1 some
  obtain ⟨k, a, rfl⟩ := exists_answer_of_arrival arrives
  cases notAnswer

/-- An answer changes no screen. -/
theorem Mirrors.answer (h : Mirrors e₀ e id shown) (answer : t.isAnswer = true) :
    Mirrors e₀ (e.turn t) id shown where
  bare := h.bare.trans (turn_of_isAnswer answer).symm
  orderly := orderly_turn h.orderly t
  orderly₀ := h.orderly₀
  hintless := h.hintless
  screens := by
    intro s₀ s' hs₀ hs'
    obtain ⟨s, hs, same⟩ := exists_of_bare h.bare.symm hs₀
    obtain ⟨x, hx, screen⟩ :=
      transcript_of_elsewhere h.orderly hs (Or.inr (looksAt_of_isAnswer answer id))
    obtain rfl := Option.some.inj (hs'.symm.trans hx)
    rw [screen]
    exact h.screens hs₀ hs

/-- The same turn in both engines. -/
theorem Mirrors.turn (h : Mirrors e₀ e id shown) (notAnswer : t.isAnswer = false) :
    Mirrors (e₀.turn t) (e.turn t) id
      (shown ++ if t.looksAt id then (e.drain id).1 else []) where
  bare := turn_of_bare h.bare t
  orderly := orderly_turn h.orderly t
  orderly₀ := orderly_turn h.orderly₀ t
  hintless := by
    have waits := awaits_turn h.orderly₀ h.hintless t
    rw [arrival?_of_script notAnswer, Option.toList_none, List.append_nil, ite_self] at waits
    exact waits
  screens := by
    intro s₀' s' hs₀' hs'
    cases hs : e.session? id with
    | none =>
      -- the session has just opened in both engines, on one device
      obtain ⟨uid, d, opens, hd, -, rfl⟩ := opens_of_none hs hs'
      obtain ⟨uid₀, d₀, opens₀, hd₀, -, rfl⟩ := opens_of_none (none_of_bare h.bare hs) hs₀'
      obtain rfl : uid = uid₀ := by
        rw [opens] at opens₀
        cases opens₀
        rfl
      rw [network_of_bare h.bare, hd] at hd₀
      cases hd₀
      exact .refl _ _
    | some s =>
      obtain ⟨s₀, hs₀, same⟩ := exists_of_bare h.bare hs
      by_cases unseen : s.closed = true ∨ t.looksAt id = false
      · have unseen₀ : s₀.closed = true ∨ t.looksAt id = false :=
          unseen.imp_left (Session.closed_of_bare same).trans
        obtain ⟨x, hx, screen⟩ := transcript_of_elsewhere h.orderly hs unseen
        obtain ⟨x₀, hx₀, screen₀⟩ := transcript_of_elsewhere h.orderly₀ hs₀ unseen₀
        obtain rfl := Option.some.inj (hs'.symm.trans hx)
        obtain rfl := Option.some.inj (hs₀'.symm.trans hx₀)
        rw [drained_of_unseen hs unseen, List.append_nil, screen, screen₀]
        exact h.screens hs₀ hs
      · obtain ⟨hopen, looks⟩ : s.closed = false ∧ t.looksAt id = true := by simpa using unseen
        have hintless := h.hintless.there hs₀ ((Session.closed_of_bare same).trans hopen)
        obtain ⟨x₀, x, hx₀, hx, hinted⟩ := hinted_of_looks h.bare hs hs₀ same hopen hintless
          (h.screens hs₀ hs) looks
        obtain rfl := Option.some.inj (hs'.symm.trans hx)
        obtain rfl := Option.some.inj (hs₀'.symm.trans hx₀)
        rw [looks, if_pos rfl, drain_of_open hs hopen]
        exact hinted

theorem Mirrors.turns (h : Mirrors e₀ e id shown) (ts : List Turn) :
    Mirrors (e₀.turns (script ts)) (e.turns ts) id (shown ++ drained id e ts) := by
  induction ts generalizing e e₀ shown with
  | nil =>
    rw [drained, List.append_nil]
    exact h
  | cons t ts ih =>
    rw [drained, ← List.append_assoc]
    cases answer : t.isAnswer with
    | true =>
      rw [script_cons_of_isAnswer answer, looksAt_of_isAnswer answer, if_neg Bool.false_ne_true,
        List.append_nil]
      exact ih (h.answer answer)
    | false =>
      rw [script_cons answer]
      exact ih (h.turn answer)

/-- Two runs agree in all but the hints on the screens. -/
structure Agree (e e' : Engine) (ts ts' : List Turn) : Prop where
  /-- after every turn that is no answer of the advisor they agree in what can be seen of it -/
  sights : e'.sights ts' = e.sights ts
  /-- and they do so in the end -/
  bare : (e'.turns ts').bare = (e.turns ts).bare
  /-- both screens of a session are one screen with hints in between, all of them lines that were
  shown as hints in that run, and the last ones of these -/
  screens : ∀ id s s', (e.turns ts).session? id = some s → (e'.turns ts').session? id = some s' →
    ∃ plain, Hinted (drained id e ts) plain s.transcript ∧
      Hinted (drained id e' ts') plain s'.transcript

/-- If the same is done in two runs from an engine without sessions, then they agree, whether there
is an advisor or not, whatever answers come in between, and whoever is told. -/
theorem agree_of_script {ts ts' : List Turn} (h : e.sessions = []) (same : script ts = script ts')
    (advised : Bool) (listener : Listener) :
    e.Agree { e with advised, listener } ts ts' := by
  have alike : Engine.bare { e with advised, listener } = e.bare := rfl
  have mirrors : ∀ id x, x.sessions = [] → x.bare = e.bare → Mirrors e x id [] := by
    intro id x hx bare
    refine ⟨bare.symm, orderly_of_no_session hx, orderly_of_no_session h,
      awaits_of_no_session h id, fun _ hs => ?_⟩
    rw [session?, hx] at hs
    cases hs
  obtain ⟨seen, left⟩ := sights_script (rfl : e.bare = e.bare) ts
  obtain ⟨seen', left'⟩ := sights_script alike.symm ts'
  refine ⟨?_, ?_, fun id s s' hs hs' => ?_⟩
  · rw [← seen, ← seen', same]
  · rw [← left, ← left', same]
  · have mirror := (mirrors id e h rfl).turns ts
    have mirror' := (mirrors id { e with advised, listener } h alike).turns ts'
    obtain ⟨s₀, hs₀, -⟩ := exists_of_bare mirror.bare hs
    exact ⟨s₀.transcript, mirror.screens hs₀ hs, mirror'.screens (same ▸ hs₀) hs'⟩

/-- An advisor answers one of two errors with a tip and fails at the other, for a listener who fails
as well; in the other run nobody is asked or told. -/
theorem agree_of_script_advised :
    let e : Engine :=
      { network := Network.build [.addDevice { uid := "S1", kind := .text "SWITCH_L2" }]
        bootDelay := usualBootDelay }
    let ts : List Turn := [.act (.opens "S1"), .act (.line 0 "vlam"), .act (.line 0 "enable"),
      .act (.poll 0), .act (.line 0 "shwo"), .act (.line 0 "show history")]
    let ts' : List Turn := [.act (.opens "S1"), .act (.line 0 "vlam"), .act (.line 0 "enable"),
      .act (.answer 0 (.tip "Try vlan.")), .act (.poll 0), .act (.line 0 "shwo"),
      .act (.answer 0 (.failed "timeout")), .act (.line 0 "show history")]
    let e' : Engine := { e with advised := true, listener := .failing }
    e.sessions = [] ∧ script ts = script ts' ∧ e.Agree e' ts ts' ∧
      drained 0 e ts = [] ∧ drained 0 e' ts' = ["[AI Tip]: Try vlan."] ∧
      ((e.turns ts).session? 0).map (·.history) =
        some ["vlam", "enable", "shwo", "show history"] := by
  intro e ts ts' e'
  have shown : drained 0 e ts = [] ∧ drained 0 e' ts' = ["[AI Tip]: Try vlan."] ∧
      ((e.turns ts).session? 0).map (·.history) =
        some ["vlam", "enable", "shwo", "show history"] := by decide +kernel
  have same : script ts = script ts' := rfl
  exact ⟨rfl, same, agree_of_script (e := e) rfl same true .failing, shown⟩

end Engine

end NetLab
