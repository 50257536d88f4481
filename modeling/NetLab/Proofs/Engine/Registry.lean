import NetLab.Proofs.Engine.Turn

set_option autoImplicit false

/-!
# Who stands for a device

Which session stands for a device is kept in a registry, apart from the sessions.  Opening a session
enters it, and a session leaves when it is closed by a call, by a line or by the next one that opens.
Two invariants hold the registry and the sessions together: an open session stands for its device
(`Engine.Orderly`), so that no two are open on one device; and whoever stands for a device is an open
session on it (`Engine.IsListed`).  The first one needs nothing of the registry at the start, the
second one needs that it is empty.

A turn that is given to a session reaches the registry in one way: it takes the session off if it
closes it (`Engine.registry_turn_of_given`).  Apart from these, only turns that open a session do.
-/

namespace NetLab

/-- An entry of a list with one more at its end was there before, or is the new one. -/
theorem getElem?_concat_eq_some {α : Type} {l : List α} {a b : α} {i : Nat}
    (h : (l ++ [a])[i]? = some b) : l[i]? = some b ∨ i = l.length ∧ b = a := by
  rw [List.getElem?_append] at h
  split at h
  · exact Or.inl h
  · next hi =>
    obtain ⟨hlt, hab⟩ := List.getElem?_eq_some_iff.1 h
    rw [List.length_singleton] at hlt
    exact Or.inr ⟨by omega, by simpa using hab.symm⟩

namespace Engine

variable {e : Engine} {id : Nat} {s s' : Session} {t : Turn}

/-- Sessions that are closed have no boot under way, and those that are open stand for their
devices. -/
structure Orderly (e : Engine) : Prop where
  ended : ∀ {i : Nat} {a : Session}, e.session? i = some a → a.closed = true → a.deadline = none
  enlisted : ∀ {i : Nat} {a : Session}, e.session? i = some a → a.closed = false →
    e.sessionFor? a.uid = some i

/-- No two open sessions stand on one device. -/
theorem Orderly.alone (h : e.Orderly) {i j : Nat} {a b : Session} (ha : e.session? i = some a)
    (hb : e.session? j = some b) (hao : a.closed = false) (hbo : b.closed = false)
    (hab : a.uid = b.uid) : i = j := by
  have first := h.enlisted ha hao
  rw [hab, h.enlisted hb hbo] at first
  exact (Option.some.inj first).symm

/-- Whoever stands for a device is an open session on it. -/
def IsListed (e : Engine) : Prop :=
  ∀ uid id, e.sessionFor? uid = some id →
    ∃ s, e.session? id = some s ∧ s.uid = uid ∧ s.closed = false

/-! ## One turn of a session -/

namespace Becomes

/-- No turn moves a session to another device. -/
theorem uid (h : Becomes e id s t s') : s'.uid = s.uid := by
  cases h with
  | line isOpen text => exact (Session.taking_keeps _ _ _ _).uid.trans Session.polled_uid
  | poll isOpen => exact Session.polled_uid
  | _ => rfl

/-- A closed session stays as it is, but for the hints that wait in it and the recall position. -/
theorem of_closed (h : Becomes e id s t s') (closed : s.closed = true) :
    ∃ hints cursor, s' = { s with hints, cursor } := by
  cases h with
  | stays _ _ => exact ⟨s.hints, s.cursor, rfl⟩
  | spent _ hints cursor => exact ⟨hints, cursor, rfl⟩
  | recalls isOpen _ _ => exact absurd (closed.symm.trans isOpen) (by decide)
  | receives isOpen _ => exact absurd (closed.symm.trans isOpen) (by decide)
  | closes isOpen _ _ => exact absurd (closed.symm.trans isOpen) (by decide)
  | line isOpen _ => exact absurd (closed.symm.trans isOpen) (by decide)
  | poll isOpen => exact absurd (closed.symm.trans isOpen) (by decide)
  | drain isOpen => exact absurd (closed.symm.trans isOpen) (by decide)
  | wait isOpen _ => exact absurd (closed.symm.trans isOpen) (by decide)

/-- No turn opens a closed session again. -/
theorem was_open (h : Becomes e id s t s') (hopen : s'.closed = false) : s.closed = false := by
  cases hc : s.closed with
  | false => rfl
  | true =>
    obtain ⟨hints, cursor, rfl⟩ := h.of_closed hc
    exact hc.symm.trans hopen

/-- A session that is closed has no boot under way. -/
theorem ended (h : Becomes e id s t s') (start : s.closed = true → s.deadline = none) :
    s'.closed = true → s'.deadline = none := by
  intro closed
  cases h with
  | closes _ _ _ => rfl
  | line isOpen text => exact Session.taking_ended (Session.polled_closed.trans isOpen) closed
  | poll isOpen => exact absurd (closed.symm.trans (Session.polled_closed.trans isOpen)) (by decide)
  | _ => exact start closed

end Becomes

/-! ## Sessions that open -/

theorem length_close (e : Engine) (i : Nat) : (e.close i).sessions.length = e.sessions.length := by
  obtain hall | ⟨s, hs, hopen⟩ := closed_or_open e i
  · rw [close_of_closed hall]
  · rw [close_eq_put hs hopen]
    exact List.length_set

/-- To close what stands for a device leaves the number of sessions. -/
theorem length_cleared (e : Engine) (uid : String) :
    ((e.sessionFor? uid).elim e e.close).sessions.length = e.sessions.length := by
  cases e.sessionFor? uid with
  | none => rfl
  | some k => exact length_close e k

/-- The turn opens a session with this number on a device that is there. -/
def Opens (e : Engine) (t : Turn) (i : Nat) (x : Session) : Prop :=
  ∃ uid d, t = .act (.opens uid) ∧ e.network.device uid = .ok d ∧ i = e.sessions.length ∧
    x = Session.start d.uid d.kind.name d.hostname

/-- The session that is new once one has opened on a device is that one. -/
theorem opens_of_new {uid : String} {i : Nat} {x : Session} (hs : e.session? i = none)
    (hx : (e.turn (.act (.opens uid))).session? i = some x) :
    e.Opens (.act (.opens uid)) i x := by
  cases hd : e.network.device uid with
  | error f =>
    rw [(turn_opens_of_error hd).2, hs] at hx
    cases hx
  | ok d =>
    have length := length_cleared e d.uid
    rw [turn_opens hd] at hx
    obtain there | ⟨last, new⟩ := getElem?_concat_eq_some hx
    · have outside : e.sessions.length ≤ i := List.getElem?_eq_none_iff.1 hs
      have inside := (List.getElem?_eq_some_iff.1 there).1
      rw [length] at inside
      exact absurd inside (Nat.not_lt.2 outside)
    · exact ⟨uid, d, rfl, hd, last.trans length, new⟩

/-- No session opens with an answer. -/
theorem session?_answer_of_none {i : Nat} (hs : e.session? i = none) (k : Nat) (a : Advice) :
    (e.answer k a).session? i = none := by
  have answered := e.brings k a
  generalize e.answer k a = e' at answered
  cases answered with
  | nothing none _ => exact hs
  | @tip k s tip there isOpen arrives only =>
    refine (session?_put_of_ne (e := e) (fun hk => ?_) _ []).trans hs
    rw [hk, there] at hs
    cases hs

/-- A session that was not there before a turn has just opened. -/
theorem opens_of_none {i : Nat} {x : Session} (hs : e.session? i = none)
    (hx : (e.turn t).session? i = some x) : e.Opens t i x := by
  have same : (e.turn t).session? i = e.session? i → e.Opens t i x := fun h => by
    rw [h, hs] at hx
    cases hx
  cases given : t.session? with
  | some k =>
    by_cases hk : i = k
    · subst hk
      exact same (by rw [turn_of_none hs given])
    · exact same (session?_turn_of_ne given hk)
  | none =>
    cases t with
    | wait k seconds => cases given
    | recalls k back => cases given
    | edit n => exact same rfl
    | clock now => exact same rfl
    | act a =>
      cases a with
      | opens uid => exact opens_of_new hs hx
      | answer k a => exact same ((session?_answer_of_none hs k a).trans hs.symm)
      | pass seconds => exact same rfl
      | line k text => cases given
      | poll k => cases given
      | close k => cases given
      | drain k => cases given

/-- A session that is there after a turn was there before, or has just opened. -/
theorem session?_of_turn (h : e.Orderly) {i : Nat} {x : Session}
    (hx : (e.turn t).session? i = some x) :
    (∃ s, e.session? i = some s ∧ Becomes e i s t x) ∨ e.Opens t i x := by
  cases hs : e.session? i with
  | some s =>
    obtain ⟨s', hs', becomes⟩ := becomes hs (h.ended hs) t
    obtain rfl := Option.some.inj (hx.symm.trans hs')
    exact Or.inl ⟨s, rfl, becomes⟩
  | none => exact Or.inr (opens_of_none hs hx)

/-! ## The registry over one turn -/

/-- A turn that puts a session in its place and leaves it open leaves the registry. -/
theorem follow_of_put {e' : Engine} {x : Session} {ns : List Notice}
    (hs : e.session? id = some s) (put : e' = e.put id x ns) (isOpen : x.closed = false)
    (hs' : e'.session? id = some s') : e'.registry = e.registry.follow id s' := by
  subst put
  obtain rfl := Option.some.inj (hs'.symm.trans (session?_put hs x ns))
  exact (Registry.follow_of_open _ _ isOpen).symm

/-- A turn that is given to an open session takes it off the registry if it closes it, and changes
nothing else there. -/
theorem registry_turn_of_open (hs : e.session? id = some s) (hopen : s.closed = false)
    (given : t.session? = some id) (hs' : (e.turn t).session? id = some s') :
    (e.turn t).registry = e.registry.follow id s' := by
  have drained : (e.drain id).2 = e.put id s.showHints s.hintNotices :=
    congrArg Prod.snd (drain_of_open hs hopen)
  cases t with
  | wait i seconds =>
    obtain rfl := Option.some.inj given
    have waited := turn_wait_of_open hs hopen seconds
    split at waited
    · exact follow_of_put hs (waited.trans (put_self hs).symm) hopen hs'
    · exact follow_of_put hs (waited.trans drained) hopen hs'
  | recalls i back =>
    obtain rfl := Option.some.inj given
    obtain ⟨cursor, recalled⟩ := turn_recall hs back
    exact follow_of_put (x := { s with cursor }) hs recalled hopen hs'
  | edit n => cases given
  | clock now => cases given
  | act a =>
    cases a with
    | line i text =>
      obtain rfl := Option.some.inj given
      rw [turn, act, execute_of_open hs hopen] at hs' ⊢
      obtain rfl := Option.some.inj (hs'.symm.trans (session?_settle hs _ _))
      exact (Registry.follow_congr rfl rfl).symm
    | poll i =>
      obtain rfl := Option.some.inj given
      exact follow_of_put hs (poll_of_open hs hopen) (Session.polled_closed.trans hopen) hs'
    | close i =>
      obtain rfl := Option.some.inj given
      obtain rfl := Option.some.inj (hs'.symm.trans (session?_close hs hopen))
      exact congrArg Engine.registry (close_eq_put hs hopen)
    | drain i =>
      obtain rfl := Option.some.inj given
      exact follow_of_put hs drained hopen hs'
    | opens uid => cases given
    | answer k a => cases given
    | pass seconds => cases given

/-- A turn that is given to a session closes it and takes it off the registry, or does neither. -/
theorem registry_turn_of_given (h : e.Orderly) {i : Nat} (given : t.session? = some i) :
    ((e.turn t).registry = e.registry ∧ ∀ a b, e.session? i = some a →
      (e.turn t).session? i = some b → a.closed = false → b.closed = false) ∨
    ∃ a b, e.session? i = some a ∧ a.closed = false ∧ (e.turn t).session? i = some b ∧
      b.closed = true ∧ (e.turn t).registry = e.registry.leave a.uid i := by
  cases ha : e.session? i with
  | none =>
    refine Or.inl ⟨congrArg registry (turn_of_none ha given), fun a b ha => ?_⟩
    cases ha
  | some a =>
    cases hc : a.closed with
    | true =>
      obtain ⟨hints, cursor, same⟩ := turn_of_closed ha hc (h.ended ha hc) given
      refine Or.inl ⟨by rw [same], fun x b hx _ isOpen => ?_⟩
      rw [← Option.some.inj hx, hc] at isOpen
      cases isOpen
    | false =>
      obtain ⟨b, hb, becomes⟩ := becomes_of_open ha hc given
      have followed := registry_turn_of_open ha hc given hb
      cases hbc : b.closed with
      | true =>
        rw [Registry.follow_of_closed _ _ hbc, becomes.uid] at followed
        exact Or.inr ⟨a, b, rfl, hc, hb, hbc, followed⟩
      | false =>
        rw [Registry.follow_of_open _ _ hbc] at followed
        refine Or.inl ⟨followed, fun _ x _ hx _ => ?_⟩
        rw [← Option.some.inj (hb.symm.trans hx), hbc]

/-! ## Every turn keeps the registry -/

/-- A session that is there after a turn that was given to a session was there before. -/
theorem becomes_of_given (h : e.Orderly) {i j : Nat} {x : Session} (given : t.session? = some i)
    (hx : (e.turn t).session? j = some x) : ∃ s, e.session? j = some s ∧ Becomes e j s t x := by
  obtain there | ⟨uid, d, rfl, -⟩ := session?_of_turn h hx
  · exact there
  · cases given

theorem orderly_turn_of_given (h : e.Orderly) {i : Nat} (given : t.session? = some i) :
    (e.turn t).Orderly where
  ended := by
    intro j x hx closed
    obtain ⟨s, hs, becomes⟩ := becomes_of_given h given hx
    exact becomes.ended (h.ended hs) closed
  enlisted := by
    intro j x hx hopen
    obtain ⟨s, hs, becomes⟩ := becomes_of_given h given hx
    have stood : e.sessionFor? x.uid = some j := by
      rw [becomes.uid]
      exact h.enlisted hs (becomes.was_open hopen)
    obtain ⟨same, -⟩ | ⟨a, b, -, -, hb, closed, left⟩ := registry_turn_of_given h given
    · rwa [sessionFor?, same]
    · rw [sessionFor?, left, Registry.find?_leave_eq_some_iff]
      refine ⟨stood, fun gone => ?_⟩
      rw [gone.2, hb] at hx
      rw [← Option.some.inj hx, closed] at hopen
      cases hopen

theorem isListed_turn_of_given (h : e.Orderly) (listed : e.IsListed) {i : Nat}
    (given : t.session? = some i) : (e.turn t).IsListed := by
  intro uid k found
  obtain ⟨same, stays⟩ | ⟨a, b, ha, -, -, -, left⟩ := registry_turn_of_given h given
  · rw [sessionFor?, same] at found
    obtain ⟨s, hs, huid, hopen⟩ := listed uid k found
    obtain ⟨x, hx, becomes⟩ := becomes hs (h.ended hs) t
    refine ⟨x, hx, becomes.uid.trans huid, ?_⟩
    by_cases hk : k = i
    · subst hk
      exact stays s x hs hx hopen
    · rw [session?_turn_of_ne given hk, hs] at hx
      rw [← Option.some.inj hx, hopen]
  · rw [sessionFor?, left, Registry.find?_leave_eq_some_iff] at found
    obtain ⟨s, hs, huid, hopen⟩ := listed uid k found.1
    have hk : k ≠ i := by
      rintro rfl
      obtain rfl := Option.some.inj (ha.symm.trans hs)
      exact found.2 ⟨huid.symm, rfl⟩
    exact ⟨s, (session?_turn_of_ne given hk).trans hs, huid, hopen⟩

/-! ### Opening a session -/

/-- What is kept by closing a session is kept by closing the one that stands for a device. -/
theorem cleared_of_close {P : Engine → Prop} (h : P e) (close : ∀ k, P (e.close k)) (uid : String) :
    P ((e.sessionFor? uid).elim e e.close) := by
  cases e.sessionFor? uid with
  | none => exact h
  | some k => exact close k

/-- Once the session that stands for a device was closed, no open one is on the device. -/
theorem free_of_cleared (h : e.Orderly) {uid : String} {i : Nat} {x : Session}
    (hx : ((e.sessionFor? uid).elim e e.close).session? i = some x) (hopen : x.closed = false) :
    x.uid ≠ uid := by
  rintro rfl
  cases hfor : e.sessionFor? x.uid with
  | none =>
    rw [hfor] at hx
    rw [h.enlisted hx hopen] at hfor
    cases hfor
  | some k =>
    rw [hfor] at hx
    have given : (Turn.act (.close k)).session? = some k := rfl
    obtain ⟨s, hs, becomes⟩ := becomes_of_given (t := .act (.close k)) h given hx
    have stood := h.enlisted hs (becomes.was_open hopen)
    rw [← becomes.uid, hfor] at stood
    obtain rfl := Option.some.inj stood
    have closed := session?_close hs (becomes.was_open hopen)
    rw [Option.elim_some, closed] at hx
    rw [← Option.some.inj hx] at hopen
    cases hopen

/-- A session that is there once another one has opened was there before, or is the new one. -/
theorem session?_of_opened {e' : Engine} {x y : Session} {i : Nat}
    (h : e'.sessions = e.sessions ++ [y]) (hx : e'.session? i = some x) :
    e.session? i = some x ∨ i = e.sessions.length ∧ x = y := by
  rw [session?, h] at hx
  exact getElem?_concat_eq_some hx

theorem orderly_cleared (h : e.Orderly) (uid : String) :
    ((e.sessionFor? uid).elim e e.close).Orderly :=
  cleared_of_close h (fun k => orderly_turn_of_given (t := .act (.close k)) h rfl) uid

theorem isListed_cleared (h : e.Orderly) (listed : e.IsListed) (uid : String) :
    ((e.sessionFor? uid).elim e e.close).IsListed :=
  cleared_of_close (P := IsListed) listed
    (fun k => isListed_turn_of_given (t := .act (.close k)) h listed rfl) uid

theorem orderly_opens (h : e.Orderly) (uid : String) : (e.turn (.act (.opens uid))).Orderly := by
  cases hd : e.network.device uid with
  | error f =>
    rw [(turn_opens_of_error hd).2]
    exact h
  | ok d =>
    have cleared := orderly_cleared h d.uid
    have free : ∀ i x, ((e.sessionFor? d.uid).elim e e.close).session? i = some x →
        x.closed = false → x.uid ≠ d.uid := fun _ _ => free_of_cleared h
    rw [turn_opens hd]
    generalize (e.sessionFor? d.uid).elim e e.close = e₁ at cleared free
    refine ⟨fun hx closed => ?_, fun hx hopen => ?_⟩
    · obtain hx | ⟨-, rfl⟩ := session?_of_opened rfl hx
      · exact cleared.ended hx closed
      · cases closed
    · rw [sessionFor?, Registry.find?_enter]
      obtain hx | ⟨rfl, rfl⟩ := session?_of_opened rfl hx
      · rw [if_neg (free _ _ hx hopen)]
        exact cleared.enlisted hx hopen
      · exact if_pos rfl

theorem isListed_opens (h : e.Orderly) (listed : e.IsListed) (uid : String) :
    (e.turn (.act (.opens uid))).IsListed := by
  cases hd : e.network.device uid with
  | error f =>
    rw [(turn_opens_of_error hd).2]
    exact listed
  | ok d =>
    have cleared := isListed_cleared h listed d.uid
    rw [turn_opens hd]
    generalize (e.sessionFor? d.uid).elim e e.close = e₁ at cleared
    intro key k found
    rw [sessionFor?, Registry.find?_enter] at found
    split at found
    · next same =>
      obtain rfl := Option.some.inj found
      exact ⟨_, List.getElem?_concat_length, same.symm, rfl⟩
    · obtain ⟨s, hs, there⟩ := cleared key k found
      refine ⟨s, ?_, there⟩
      exact (List.getElem?_append_left (List.getElem?_eq_some_iff.1 hs).1).trans hs

/-! ### Any turn -/

/-- A turn that is given to no session and opens none leaves the registry, and changes the hints
that wait in sessions at most. -/
theorem turn_of_elsewhere (given : t.session? = none) (other : ∀ uid, t ≠ .act (.opens uid)) :
    (e.turn t).registry = e.registry ∧ ∀ j s, e.session? j = some s →
      ∃ hints, (e.turn t).session? j = some { s with hints } := by
  cases t with
  | wait i seconds => cases given
  | recalls i back => cases given
  | edit n => exact ⟨rfl, fun j s hs => ⟨s.hints, hs⟩⟩
  | clock now => exact ⟨rfl, fun j s hs => ⟨s.hints, hs⟩⟩
  | act a =>
    cases a with
    | opens uid => exact absurd rfl (other uid)
    | pass seconds => exact ⟨rfl, fun j s hs => ⟨s.hints, hs⟩⟩
    | answer k a =>
      change (e.answer k a).registry = _ ∧ ∀ j s, _ → ∃ hints, (e.answer k a).session? j = _
      have answered := e.brings k a
      generalize e.answer k a = e' at answered
      cases answered with
      | nothing _ _ => exact ⟨rfl, fun j s hs => ⟨s.hints, hs⟩⟩
      | @tip i x tip there _ _ _ =>
        refine ⟨rfl, fun j s hs => ?_⟩
        by_cases hj : j = i
        · subst hj
          obtain rfl := Option.some.inj (there.symm.trans hs)
          exact ⟨_, session?_put hs _ []⟩
        · exact ⟨s.hints, (session?_put_of_ne hj _ []).trans hs⟩
    | line i text => cases given
    | poll i => cases given
    | close i => cases given
    | drain i => cases given

theorem orderly_turn (h : e.Orderly) (t : Turn) : (e.turn t).Orderly := by
  cases given : t.session? with
  | some i => exact orderly_turn_of_given h given
  | none =>
    by_cases opens : ∃ uid, t = .act (.opens uid)
    · obtain ⟨uid, rfl⟩ := opens
      exact orderly_opens h uid
    · have elsewhere := turn_of_elsewhere (e := e) given fun uid same => opens ⟨uid, same⟩
      have before : ∀ {j : Nat} {x : Session}, (e.turn t).session? j = some x →
          ∃ s hints, e.session? j = some s ∧ x = { s with hints } := by
        intro j x hx
        obtain ⟨s, hs, -⟩ | ⟨uid, d, same, -⟩ := session?_of_turn h hx
        · obtain ⟨hints, hs'⟩ := elsewhere.2 j s hs
          exact ⟨s, hints, hs, Option.some.inj (hx.symm.trans hs')⟩
        · exact absurd ⟨uid, same⟩ opens
      refine ⟨fun hx closed => ?_, fun hx hopen => ?_⟩
      · obtain ⟨s, hints, hs, rfl⟩ := before hx
        have ended := h.ended hs closed
        exact ended
      · obtain ⟨s, hints, hs, rfl⟩ := before hx
        have stood := h.enlisted hs hopen
        rw [sessionFor?, elsewhere.1]
        exact stood

theorem isListed_turn (h : e.Orderly) (listed : e.IsListed) (t : Turn) : (e.turn t).IsListed := by
  cases given : t.session? with
  | some i => exact isListed_turn_of_given h listed given
  | none =>
    by_cases opens : ∃ uid, t = .act (.opens uid)
    · obtain ⟨uid, rfl⟩ := opens
      exact isListed_opens h listed uid
    · obtain ⟨kept, stays⟩ := turn_of_elsewhere (e := e) given fun uid same => opens ⟨uid, same⟩
      intro uid k found
      rw [sessionFor?, kept] at found
      obtain ⟨s, hs, there⟩ := listed uid k found
      obtain ⟨hints, hs'⟩ := stays k s hs
      exact ⟨_, hs', there⟩

theorem orderly_of_no_session (h : e.sessions = []) : e.Orderly := by
  have none : ∀ {i : Nat} {a : Session}, e.session? i ≠ some a := by
    intro i a hi
    rw [session?, h] at hi
    cases hi
  exact ⟨fun hi => absurd hi none, fun hi => absurd hi none⟩

theorem orderly_turns (h : e.Orderly) (ts : List Turn) : (e.turns ts).Orderly :=
  turns_induction (P := Orderly) h (fun _ t h => orderly_turn h t) ts

theorem isListed_of_empty (h : e.registry = {}) : e.IsListed := by
  intro uid id found
  rw [sessionFor?, h] at found
  cases found

theorem isListed_turns (h : e.Orderly) (listed : e.IsListed) (ts : List Turn) :
    (e.turns ts).IsListed :=
  (turns_induction (P := fun e => e.Orderly ∧ e.IsListed) ⟨h, listed⟩
    (fun _ t h => ⟨orderly_turn h.1 t, isListed_turn h.1 h.2 t⟩) ts).2

end Engine

end NetLab
