import NetLab.Proofs.Engine.Ladder

set_option autoImplicit false

/-!
# The log is well bracketed

What a listener is told of a device falls into blocks, one for each session that opened there: the
opening, then the lines that were carried out with the restarts, packets and hints among them, and
the closing.  The lines of a block are the history of its session.  Only the last block can lack
its closing, and it does while its session is open.

`Engine.Records` lists what one turn can do to the sessions and what is told of it; that every list
of blocks grows as it should is one case for each item.
-/

namespace NetLab

/-! ## Reports of a device -/

namespace Report

/-- The report says that a session opened or closed. -/
def isBracket : Report → Bool
  | .opened | .closed => true
  | _ => false

/-- The report is of something that happens in an open session: a line, a restart, a packet or a
hint. -/
def isInner : Report → Bool
  | .command _ _ | .reload _ | .ping _ _ _ | .hint _ => true
  | _ => false

/-- The line that the report is of. -/
def line? : Report → Option String
  | .command line _ => some line
  | _ => none

/-- The report is of a session's own doing.  What lines print and what advice fails is not. -/
def isMark (r : Report) : Bool := r.isBracket || r.isInner

end Report

/-- What the notices say of the sessions of a device, in order. -/
def marks (uid : String) (ns : List Notice) : List Report :=
  (ns.filter fun n => n.uid = uid && n.report.isMark).map (·.report)

theorem marks_append (uid : String) (ns ms : List Notice) :
    marks uid (ns ++ ms) = marks uid ns ++ marks uid ms := by
  rw [marks, List.filter_append, List.map_append]
  rfl

/-- Of what is told, this is said of the sessions of a device, and nothing of those of others. -/
def Tells (uid : String) (ns : List Notice) (rs : List Report) : Prop :=
  ∀ v, marks v ns = if v = uid then rs else []

section Tells

variable {uid : String} {ns ms : List Notice} {rs qs : List Report}

theorem tells_nil (silent : ∀ n ∈ ns, n.report.isMark = false) : Tells uid ns [] := by
  intro v
  rw [ite_self, marks, List.filter_eq_nil_iff.2 fun n hn => by simp [silent n hn], List.map_nil]

theorem tells_map (uid : String) (rs : List Report) (all : ∀ r ∈ rs, r.isMark = true) :
    Tells uid (rs.map fun r => ⟨uid, r⟩) rs := by
  intro v
  rw [marks, List.filter_map, List.map_map]
  split
  · next h =>
    subst h
    rw [List.filter_eq_self.2 fun r hr => by simp [all r hr]]
    exact List.map_id _
  · next h =>
    rw [List.filter_eq_nil_iff.2 fun r _ => by simp [Ne.symm h], List.map_nil]

theorem Tells.append (h : Tells uid ns rs) (h' : Tells uid ms qs) :
    Tells uid (ns ++ ms) (rs ++ qs) := by
  intro v
  rw [marks_append, h v, h' v]
  split
  · rfl
  · rfl

end Tells

/-! ## The block of a session -/

namespace Session

/-- The closing of a session, if it is closed. -/
def closing (s : Session) : List Report := if s.closed then [.closed] else []

/-- The block of reports of a session: the opening, what happened in the session, with the lines of
its history in order, and the closing. -/
def Wrote (s : Session) (block : List Report) : Prop :=
  ∃ inner, block = .opened :: (inner ++ s.closing) ∧ (∀ r ∈ inner, r.isInner = true) ∧
    inner.filterMap Report.line? = s.history

/-- What is added to the block of an open session that becomes this. -/
def Writes (s s' : Session) (rs : List Report) : Prop :=
  ∃ inner, rs = inner ++ s'.closing ∧ (∀ r ∈ inner, r.isInner = true) ∧
    s'.history = s.history ++ inner.filterMap Report.line?

variable {s s' : Session} {block rs : List Report}

theorem Wrote.append (h : s.Wrote block) (hopen : s.closed = false) (writes : s.Writes s' rs) :
    s'.Wrote (block ++ rs) := by
  obtain ⟨inner, rfl, all, lines⟩ := h
  obtain ⟨inner', rfl, all', history⟩ := writes
  refine ⟨inner ++ inner', ?_, fun r hr => ?_, ?_⟩
  · simp [closing, hopen]
  · exact (List.mem_append.1 hr).elim (all r) (all' r)
  · rw [List.filterMap_append, lines, history]

/-- The block of a session depends on its history, and on whether it is closed. -/
theorem Wrote.congr (h : s.Wrote block) (closed : s'.closed = s.closed)
    (history : s'.history = s.history) : s'.Wrote block := by
  rw [Wrote, closing, closed, history]
  exact h

/-- Of the block of a session, the brackets are the opening and the closing. -/
theorem Wrote.brackets (h : s.Wrote block) :
    block.filter Report.isBracket = .opened :: s.closing := by
  obtain ⟨inner, rfl, all, -⟩ := h
  have none : inner.filter Report.isBracket = [] := List.filter_eq_nil_iff.2 fun r hr => by
    have isInner := all r hr
    cases r <;> first | exact Bool.false_ne_true | cases isInner
  have closing : s.closing.filter Report.isBracket = s.closing := by
    rw [Session.closing]
    split
    · rfl
    · rfl
  rw [List.filter_cons_of_pos rfl, List.filter_append, none, closing, List.nil_append]

theorem wrote_opened (hopen : s.closed = false) (history : s.history = []) :
    s.Wrote [.opened] :=
  ⟨[], by simp [closing, hopen], List.forall_mem_nil _, history.symm⟩

/-- All that is added is said of the session. -/
theorem Writes.isMark (h : s.Writes s' rs) : ∀ r ∈ rs, r.isMark = true := by
  obtain ⟨inner, rfl, all, -⟩ := h
  intro r hr
  rcases List.mem_append.1 hr with hr | hr
  · rw [Report.isMark, all r hr, Bool.or_true]
  · rw [closing] at hr
    split at hr
    · rw [List.mem_singleton.1 hr]
      rfl
    · cases hr

theorem Writes.trans {s'' : Session} {qs : List Report} (h : s.Writes s' rs)
    (hopen : s'.closed = false) (h' : s'.Writes s'' qs) : s.Writes s'' (rs ++ qs) := by
  obtain ⟨inner, rfl, all, history⟩ := h
  obtain ⟨inner', rfl, all', history'⟩ := h'
  refine ⟨inner ++ inner', by simp [closing, hopen], fun r hr => ?_, ?_⟩
  · exact (List.mem_append.1 hr).elim (all r) (all' r)
  · rw [history', history, List.filterMap_append, List.append_assoc]

/-- A session that stays open and keeps its history adds what happened in it, lines apart. -/
theorem writes_of_inner (closed : s'.closed = false) (history : s'.history = s.history)
    (all : ∀ r ∈ rs, r.isInner = true) (lines : rs.filterMap Report.line? = []) :
    s.Writes s' rs :=
  ⟨rs, by simp [closing, closed], all, by rw [lines, List.append_nil, history]⟩

/-- A session that is closed adds its closing. -/
theorem writes_close (s : Session) : s.Writes s.close [.closed] :=
  ⟨[], rfl, List.forall_mem_nil _, (List.append_nil _).symm⟩

theorem Step.writes {a : Action} (h : s.Step a s' rs) (hopen : s.closed = false) :
    s.Writes s' rs := by
  cases h with
  | closes _ _ => exact s.writes_close
  | pings _ _ _ _ => exact writes_of_inner hopen rfl (by simp [Report.isInner]) rfl
  | halts _ _ _ => exact writes_of_inner hopen rfl (by simp [Report.isInner]) rfl
  | _ => exact writes_of_inner hopen rfl (List.forall_mem_nil _) rfl

theorem Took.writes {m : Command.Meaning} (h : s.Took m s' rs) (hopen : s.closed = false) :
    s.Writes s' rs := by
  cases h with
  | refused _ => exact writes_of_inner hopen rfl (List.forall_mem_nil _) rfl
  | plain _ step => exact step.writes hopen
  | privileged _ step => exact step.writes hopen

variable {t : Timing} {n : Network} {p : Session} {line : String}

/-- What a line adds to the block of the session that takes it: the line, if it is one, and what it
did. -/
theorem taking_writes (t : Timing) (n : Network) (line : String) (hopen : p.closed = false)
    (key : p.mode.isKey = true) :
    ∃ rs, p.Writes (p.taking t n line).session rs ∧
      Tells p.uid (p.taking t n line).notices rs := by
  cases hm : p.meaning? line with
  | none =>
    have taken := p.takes t n line
    generalize p.taking t n line = u at taken
    have silent : Tells p.uid [] [] := tells_nil (List.forall_mem_nil _)
    cases taken with
    | booting _ => exact ⟨[], writes_of_inner hopen rfl (List.forall_mem_nil _) rfl, silent⟩
    | lostMode _ lost => exact absurd (key.symm.trans lost) (by decide)
    | blank _ _ _ => exact ⟨[], writes_of_inner hopen rfl (List.forall_mem_nil _) rfl, silent⟩
    | command booted key notBlank => simp [meaning?, booted, key, notBlank] at hm
  | some m =>
    obtain ⟨rs, outputs, took, notices, printed⟩ := taking_took (t := t) (n := n) hm
    have typed : p.Writes (p.enterLine line) [.command line p.mode] :=
      ⟨[.command line p.mode], by simp [closing, enterLine, takeLine, print, hopen],
        by simp [Report.isInner], rfl⟩
    have done : (p.enterLine line).Writes (p.taking t n line).session rs := took.writes hopen
    have told : Tells p.uid [⟨p.uid, .command line p.mode⟩] [.command line p.mode] :=
      tells_map _ [.command line p.mode] typed.isMark
    have silent : Tells p.uid outputs [] := tells_nil fun x hx => by
      obtain ⟨output, h⟩ := printed x hx
      rw [h]
      rfl
    refine ⟨.command line p.mode :: rs, typed.trans hopen done, ?_⟩
    rw [notices]
    have whole := told.append ((tells_map _ _ done.isMark).append silent)
    rwa [List.append_nil] at whole

/-- What is added to the block when the waiting hints are shown. -/
theorem writes_hints (hopen : s'.closed = false) (history : s'.history = s.history) :
    s.Writes s' (s.hints.map .hint) ∧ Tells s.uid s.hintNotices (s.hints.map .hint) := by
  have shown : s.Writes s' (s.hints.map .hint) := by
    refine writes_of_inner hopen history (fun r hr => ?_) ?_
    · obtain ⟨tip, -, rfl⟩ := List.mem_map.1 hr
      rfl
    · rw [List.filterMap_map]
      exact List.filterMap_eq_nil_iff.2 fun _ _ => rfl
  have told := tells_map s.uid _ shown.isMark
  rw [List.map_map] at told
  exact ⟨shown, told⟩

@[simp] theorem polled_history {clock : Double} : (s.polled clock).history = s.history := by
  have shown : (s.polled clock).history = (s.woken clock).history := rfl
  rw [shown, woken]
  split
  · rfl
  · rfl

/-- What a line adds to the block of an open session. -/
theorem upshot_writes (t : Timing) (n : Network) (line : String) (hopen : s.closed = false)
    (key : (s.polled t.now).mode.isKey = true) :
    ∃ rs, s.Writes (s.upshot t n line).final rs ∧ Tells s.uid (s.upshot t n line).notices rs := by
  have isOpen : (s.polled t.now).closed = false := polled_closed.trans hopen
  obtain ⟨shown, told⟩ := writes_hints (s := s) isOpen polled_history
  obtain ⟨rs, writes, tells⟩ := taking_writes t n line isOpen key
  rw [polled_uid] at tells
  exact ⟨s.hints.map Report.hint ++ rs, shown.trans isOpen writes, told.append tells⟩

end Session

/-! ## What a turn writes -/

namespace Engine

/-- What one turn can make of the sessions of an engine, with what is told of it. -/
inductive Records (e : Engine) : List Session → List Notice → Prop where
  /-- what is told is of no session's doing -/
  | stays {ns : List Notice} (silent : ∀ n ∈ ns, n.report.isMark = false) :
      Records e e.sessions ns
  /-- a hint comes or goes, or the recall position moves -/
  | touches {i : Nat} {s : Session} (there : e.session? i = some s) (hints : List String)
      (cursor : Option Nat) : Records e (e.sessions.set i { s with hints, cursor }) []
  | writes {i : Nat} {s s' : Session} {ns : List Notice} {rs : List Report}
      (there : e.session? i = some s) (isOpen : s.closed = false) (uid : s'.uid = s.uid)
      (writes : s.Writes s' rs) (tells : Tells s.uid ns rs) : Records e (e.sessions.set i s') ns
  /-- a session opens on a device where none is open any more -/
  | opens {ss : List Session} {ns : List Notice} {x : Session} (cleared : Records e ss ns)
      (free : ∀ s ∈ ss, s.uid = x.uid → s.closed = true) (isOpen : x.closed = false)
      (new : x.history = []) : Records e (ss ++ [x]) (ns ++ [⟨x.uid, .opened⟩])

variable {e : Engine} {id : Nat} {s s' : Session} {t : Turn}

/-- The sessions that a turn left, and what the listener was told. -/
def Recorded (e e' : Engine) : Prop :=
  ∃ ns, e'.listener = e.listener.hearAll ns ∧ e.Records e'.sessions ns

theorem recorded_of_same {e' : Engine} (sessions : e'.sessions = e.sessions)
    (listener : e'.listener = e.listener) : e.Recorded e' :=
  ⟨[], listener, by rw [sessions]; exact .stays (List.forall_mem_nil _)⟩

/-- A session that is put where it was, by what it writes. -/
theorem recorded_put {ns : List Notice} {rs : List Report} (hs : e.session? id = some s)
    (hopen : s.closed = false) (uid : s'.uid = s.uid) (writes : s.Writes s' rs)
    (tells : Tells s.uid ns rs) : e.Recorded (e.put id s' ns) :=
  ⟨ns, rfl, .writes hs hopen uid writes tells⟩

theorem recorded_close (e : Engine) (id : Nat) : e.Recorded (e.close id) := by
  obtain hall | ⟨s, hs, hopen⟩ := closed_or_open e id
  · rw [close_of_closed hall]
    exact recorded_of_same rfl rfl
  · rw [close_eq_put hs hopen]
    exact recorded_put hs hopen rfl s.writes_close (tells_map _ _ s.writes_close.isMark)

theorem recorded_drain (hs : e.session? id = some s) (hopen : s.closed = false) :
    e.Recorded (e.drain id).2 := by
  have isOpen : s.showHints.closed = false := hopen
  have history : s.showHints.history = s.history := rfl
  have shown := Session.writes_hints isOpen history
  rw [drain_of_open hs hopen]
  exact recorded_put hs hopen rfl shown.1 shown.2

theorem recorded_answer (e : Engine) (k : Nat) (a : Advice) : e.Recorded (e.answer k a) := by
  have answered := e.brings k a
  generalize e.answer k a = e' at answered
  cases answered with
  | @tip i s tip there isOpen arrives only =>
    exact ⟨[], rfl, .touches there (s.hints ++ [tip]) s.cursor⟩
  | @nothing ns none failures =>
    refine ⟨ns, rfl, .stays fun n hn => ?_⟩
    obtain ⟨line, error, h⟩ := failures n hn
    rw [h]
    rfl

/-- What a turn writes that is given to an open session. -/
theorem recorded_of_open (hs : e.session? id = some s) (hopen : s.closed = false)
    (known : s.mode ∈ Mode.all) (given : t.session? = some id) : e.Recorded (e.turn t) := by
  cases t with
  | wait i seconds =>
    obtain rfl := Option.some.inj given
    rw [turn_wait_of_open hs hopen]
    split
    · exact recorded_of_same rfl rfl
    · exact recorded_drain hs hopen
  | recalls i back =>
    obtain rfl := Option.some.inj given
    obtain ⟨cursor, recalled⟩ := turn_recall hs back
    rw [recalled]
    exact ⟨[], rfl, .touches hs s.hints cursor⟩
  | edit n => cases given
  | clock now => cases given
  | act a =>
    cases a with
    | line i text =>
      obtain rfl := Option.some.inj given
      have key : (s.polled e.clock).mode.isKey = true := by
        obtain same | user := polled_mode s e.clock
        · exact Mode.isKey_of_mem_all (same ▸ known)
        · rw [user]
          rfl
      obtain ⟨rs, writes, tells⟩ := Session.upshot_writes ⟨e.clock, e.bootDelay⟩ e.network
        (Text.trim text) hopen key
      have uid := (Session.taking_keeps ⟨e.clock, e.bootDelay⟩ e.network (s.polled e.clock)
        (Text.trim text)).uid
      rw [turn, act, execute_of_open hs hopen]
      exact ⟨_, rfl, .writes hs hopen (uid.trans Session.polled_uid) writes tells⟩
    | poll i =>
      obtain rfl := Option.some.inj given
      have isOpen : (s.polled e.clock).closed = false := Session.polled_closed.trans hopen
      have shown := Session.writes_hints (s := s) isOpen Session.polled_history
      rw [turn, act, poll_of_open hs hopen]
      exact recorded_put hs hopen Session.polled_uid shown.1 shown.2
    | close i =>
      obtain rfl := Option.some.inj given
      exact recorded_close e i
    | drain i =>
      obtain rfl := Option.some.inj given
      exact recorded_drain hs hopen
    | opens uid => cases given
    | answer k a => cases given
    | pass seconds => cases given

/-- What is written when a session opens: the closing of the one before, if one is open, and the
opening. -/
theorem recorded_opens (h : e.Orderly) (uid : String) :
    e.Recorded (e.turn (.act (.opens uid))) := by
  cases hd : e.network.device uid with
  | error f =>
    rw [(turn_opens_of_error hd).2]
    exact recorded_of_same rfl rfl
  | ok d =>
    obtain ⟨ns, told, records⟩ : e.Recorded ((e.sessionFor? d.uid).elim e e.close) :=
      cleared_of_close (recorded_of_same rfl rfl) (recorded_close e) d.uid
    rw [turn_opens hd]
    refine ⟨ns ++ [⟨d.uid, .opened⟩], ?_, .opens records (fun s hs huid => ?_) rfl rfl⟩
    · rw [Listener.hearAll_append, ← told]
      rfl
    · obtain ⟨i, hi⟩ := List.mem_iff_getElem?.1 hs
      by_contra hopen
      exact free_of_cleared h hi (by simpa using hopen) huid

/-- Every turn does to the sessions one of the things that are listed, and tells of it. -/
theorem recorded_turn (h : e.Orderly) (known : ∀ id s, e.session? id = some s → s.mode ∈ Mode.all)
    (t : Turn) : e.Recorded (e.turn t) := by
  cases given : t.session? with
  | some i =>
    cases hs : e.session? i with
    | none =>
      rw [turn_of_none hs given]
      exact recorded_of_same rfl rfl
    | some s =>
      cases hc : s.closed with
      | true =>
        obtain ⟨hints, cursor, same⟩ := turn_of_closed hs hc (h.ended hs hc) given
        rw [same]
        exact ⟨[], rfl, .touches hs hints cursor⟩
      | false => exact recorded_of_open hs hc (known i s hs) given
  | none =>
    cases t with
    | wait i seconds => cases given
    | recalls i back => cases given
    | edit n => exact recorded_of_same rfl rfl
    | clock now => exact recorded_of_same rfl rfl
    | act a =>
      cases a with
      | opens uid => exact recorded_opens h uid
      | answer k a => exact recorded_answer e k a
      | pass seconds => exact recorded_of_same rfl rfl
      | line i text => cases given
      | poll i => cases given
      | close i => cases given
      | drain i => cases given

/-! ## The blocks of a log -/

/-- On a device, all sessions but the last are closed. -/
def InOrder (ss : List Session) : Prop := ss.Pairwise fun a b => a.uid = b.uid → a.closed = true

/-- The log has one block for each session of a device, in the order in which they opened. -/
def Accounts (ss : List Session) (log : List Notice) : Prop :=
  ∀ uid, ∃ blocks, List.Forall₂ Session.Wrote (ss.filter (·.uid = uid)) blocks ∧
    marks uid log = blocks.flatten

/-- To replace an entry of a list keeps what stands before and behind it. -/
theorem exists_cut {α : Type} {l : List α} {i : Nat} {a : α} (h : l[i]? = some a) :
    ∃ xs ys, l = xs ++ a :: ys ∧ ∀ x, l.set i x = xs ++ x :: ys := by
  obtain ⟨hlt, rfl⟩ := List.getElem?_eq_some_iff.1 h
  have cut : ∀ x : α, l.set i x = l.take i ++ x :: l.drop (i + 1) := fun x => by
    rw [List.set_eq_take_append_cons_drop, if_pos hlt]
  exact ⟨_, _, by rw [← cut, List.set_getElem_self], cut⟩

/-- To replace a session by one of its device replaces it among the sessions of the device. -/
theorem filter_set {ss : List Session} {i : Nat} (hs : ss[i]? = some s) (uid : s'.uid = s.uid) :
    ∃ xs ys, ss.filter (·.uid = s.uid) = xs ++ s :: ys ∧
      (ss.set i s').filter (·.uid = s.uid) = xs ++ s' :: ys ∧
      (∀ v, v ≠ s.uid → (ss.set i s').filter (·.uid = v) = ss.filter (·.uid = v)) ∧
      (InOrder ss → s.closed = false → ys = []) := by
  obtain ⟨xs, ys, whole, cut⟩ := exists_cut hs
  refine ⟨xs.filter (·.uid = s.uid), ys.filter (·.uid = s.uid), ?_, ?_, fun v hv => ?_,
    fun inOrder hopen => ?_⟩
  · rw [whole]
    simp
  · rw [cut]
    simp [uid]
  · rw [cut, whole]
    simp [uid, Ne.symm hv]
  · rw [whole, InOrder, List.pairwise_append] at inOrder
    refine List.filter_eq_nil_iff.2 fun y hy same => ?_
    have closed := (List.pairwise_cons.1 inOrder.2.1).1 y hy (of_decide_eq_true same).symm
    exact absurd (closed.symm.trans hopen) (by decide)

/-- Lists that are related part by part are cut alike. -/
theorem forall₂_append_cons {α β : Type} {R : α → β → Prop} {xs ys : List α} {x : α} {l : List β}
    (h : List.Forall₂ R (xs ++ x :: ys) l) :
    ∃ bs b cs, l = bs ++ b :: cs ∧ List.Forall₂ R xs bs ∧ R x b ∧ List.Forall₂ R ys cs := by
  induction xs generalizing l with
  | nil =>
    obtain ⟨b, cs, first, rest, rfl⟩ := List.forall₂_cons_left_iff.1 h
    exact ⟨[], b, cs, rfl, .nil, first, rest⟩
  | cons z zs ih =>
    obtain ⟨c, l, head, tail, rfl⟩ := List.forall₂_cons_left_iff.1 h
    obtain ⟨bs, b, cs, rfl, before, here, after⟩ := ih tail
    exact ⟨c :: bs, b, cs, rfl, .cons head before, here, after⟩

/-- The reports of a session go to the end of its block.  If there are any, its block is the last
one of its device. -/
theorem Accounts.set {ss : List Session} {log ns : List Notice} {i : Nat} {rs : List Report}
    (h : Accounts ss log) (hs : ss[i]? = some s) (uid : s'.uid = s.uid)
    (grows : ∀ block, s.Wrote block → s'.Wrote (block ++ rs)) (tells : Tells s.uid ns rs)
    (last : rs = [] ∨ InOrder ss ∧ s.closed = false) : Accounts (ss.set i s') (log ++ ns) := by
  obtain ⟨xs, ys, before, after, others, none⟩ := filter_set hs uid
  intro v
  obtain ⟨blocks, wrote, told⟩ := h v
  by_cases hv : v = s.uid
  · subst hv
    rw [before] at wrote
    obtain ⟨bs, b, cs, rfl, first, here, rest⟩ := forall₂_append_cons wrote
    refine ⟨bs ++ (b ++ rs) :: cs, ?_, ?_⟩
    · rw [after]
      exact List.rel_append first (.cons (grows b here) rest)
    · rw [marks_append, told, tells, if_pos rfl]
      rcases last with rfl | ⟨inOrder, hopen⟩
      · simp
      · obtain rfl := none inOrder hopen
        obtain rfl := List.forall₂_nil_left_iff.1 rest
        simp
  · refine ⟨blocks, by rwa [others v hv], ?_⟩
    rw [marks_append, told, tells, if_neg hv, List.append_nil]

/-- A session that opens has a block of its own. -/
theorem Accounts.concat {ss : List Session} {log : List Notice} (h : Accounts ss log)
    (hopen : s.closed = false) (new : s.history = []) :
    Accounts (ss ++ [s]) (log ++ [⟨s.uid, .opened⟩]) := by
  have tells : Tells s.uid [⟨s.uid, .opened⟩] [.opened] :=
    tells_map _ [.opened] (by simp [Report.isMark, Report.isBracket])
  intro v
  obtain ⟨blocks, wrote, told⟩ := h v
  by_cases hv : v = s.uid
  · refine ⟨blocks ++ [[.opened]], ?_, ?_⟩
    · rw [List.filter_append, List.filter_cons, if_pos (by simp [hv])]
      exact List.rel_append wrote (.cons (Session.wrote_opened hopen new) .nil)
    · rw [marks_append, told, tells, if_pos hv, List.flatten_append]
      rfl
  · refine ⟨blocks, ?_, ?_⟩
    · rw [List.filter_append, List.filter_cons, if_neg (by simp [Ne.symm hv]), List.filter_nil,
        List.append_nil]
      exact wrote
    · rw [marks_append, told, tells, if_neg hv, List.append_nil]

theorem InOrder.set {ss : List Session} {i : Nat} (h : InOrder ss) (hs : ss[i]? = some s)
    (uid : s'.uid = s.uid) (closed : s.closed = true → s'.closed = true) :
    InOrder (ss.set i s') := by
  obtain ⟨xs, ys, whole, cut⟩ := exists_cut hs
  rw [whole, InOrder, List.pairwise_append, List.pairwise_cons] at h
  rw [cut, InOrder, List.pairwise_append, List.pairwise_cons]
  obtain ⟨before, ⟨here, after⟩, across⟩ := h
  refine ⟨before, ⟨fun b hb same => closed (here b hb (uid.symm.trans same)), after⟩, ?_⟩
  intro a ha b hb same
  rcases List.mem_cons.1 hb with rfl | hb
  · exact across a ha s (List.mem_cons_self ..) (same.trans uid)
  · exact across a ha b (List.mem_cons_of_mem _ hb) same

/-- Whatever one turn does to the sessions, the log stays in blocks, and the sessions in order. -/
theorem Records.keeps {ss : List Session} {log ns : List Notice} (h : e.Records ss ns)
    (inOrder : InOrder e.sessions) (accounts : Accounts e.sessions log) :
    InOrder ss ∧ Accounts ss (log ++ ns) := by
  induction h with
  | @stays ns silent =>
    refine ⟨inOrder, fun v => ?_⟩
    obtain ⟨blocks, wrote, told⟩ := accounts v
    refine ⟨blocks, wrote, ?_⟩
    have nothing : Tells v ns [] := tells_nil silent
    rw [marks_append, told, nothing, ite_self, List.append_nil]
  | touches there hints cursor =>
    refine ⟨inOrder.set there rfl fun closed => closed, ?_⟩
    refine accounts.set there rfl (fun block wrote => ?_)
      (tells_nil (List.forall_mem_nil _)) (Or.inl rfl)
    rw [List.append_nil]
    exact wrote.congr rfl rfl
  | @writes i s s' ns rs there isOpen uid writes tells =>
    refine ⟨inOrder.set there uid fun closed => absurd (closed.symm.trans isOpen) (by decide), ?_⟩
    exact accounts.set there uid (fun block wrote => wrote.append isOpen writes) tells
      (Or.inr ⟨inOrder, isOpen⟩)
  | @opens ss ns x cleared free isOpen new ih =>
    obtain ⟨inOrder, accounts⟩ := ih
    constructor
    · rw [InOrder, List.pairwise_append]
      refine ⟨inOrder, List.pairwise_singleton _ _, fun a ha b hb same => ?_⟩
      obtain rfl := List.mem_singleton.1 hb
      exact free a ha same
    · rw [← List.append_assoc]
      exact accounts.concat isOpen new

/-! ## What a listener keeps -/

/-- A journal without a capacity keeps all that it is told. -/
theorem Listener.hearAll_unbounded {j : Journal Notice} (h : j.capacity = none)
    (ns : List Notice) : ∃ j', (Listener.recording j).hearAll ns = .recording j' ∧
      j'.capacity = none ∧ j'.toList = j.toList ++ ns := by
  induction ns generalizing j with
  | nil => exact ⟨j, rfl, h, (List.append_nil _).symm⟩
  | cons n ns ih =>
    have grown : (j.add n).toList = j.toList ++ [n] := by
      simp [Journal.toList, Journal.add, Journal.overflow, h]
    obtain ⟨j', told, capacity, kept⟩ := ih (j := j.add n) h
    exact ⟨j', told, capacity, by rw [kept, grown, List.append_assoc]; rfl⟩

/-- What every turn keeps of an engine whose listener keeps everything. -/
structure Recording (e : Engine) : Prop where
  orderly : e.Orderly
  listed : e.IsListed
  known : ∀ id s, e.session? id = some s → s.mode ∈ Mode.all
  unbounded : ∃ j, e.listener = .recording j ∧ j.capacity = none
  inOrder : InOrder e.sessions
  accounts : Accounts e.sessions e.listener.journal.toList

theorem recording_turn (h : e.Recording) (t : Turn) : (e.turn t).Recording := by
  obtain ⟨ns, told, records⟩ := recorded_turn h.orderly h.known t
  obtain ⟨j, listener, capacity⟩ := h.unbounded
  obtain ⟨j', heard, capacity', kept⟩ := Listener.hearAll_unbounded capacity ns
  obtain ⟨inOrder, accounts⟩ := records.keeps h.inOrder h.accounts
  rw [listener, heard] at told
  refine ⟨orderly_turn h.orderly t, isListed_turn h.orderly h.listed t,
    mem_all_turns h.orderly h.known [t], ⟨j', told, capacity'⟩, inOrder, ?_⟩
  rw [listener] at accounts
  rw [told]
  exact kept ▸ accounts

/-! ## Brackets -/

/-- In the blocks of the sessions of a device, openings and closings alternate. -/
theorem brackets_of_blocks {ss : List Session} {blocks : List (List Report)}
    (h : List.Forall₂ Session.Wrote ss blocks) (inOrder : ss.Pairwise fun a _ => a.closed = true) :
    ∃ n, blocks.flatten.filter Report.isBracket =
      (List.replicate n [Report.opened, Report.closed]).flatten ++
        if ss.any (!·.closed) then [.opened] else [] := by
  induction h with
  | nil => exact ⟨0, rfl⟩
  | @cons s block ss blocks wrote rest ih =>
    obtain ⟨closed, inOrder⟩ := List.pairwise_cons.1 inOrder
    rw [List.flatten_cons, List.filter_append, wrote.brackets, List.any_cons]
    cases hc : s.closed with
    | true =>
      obtain ⟨n, alternate⟩ := ih inOrder
      rw [alternate]
      exact ⟨n + 1, by simp [Session.closing, hc, List.replicate_succ]⟩
    | false =>
      -- behind an open session there is none on its device
      have none : ss = [] := by
        refine List.eq_nil_iff_forall_not_mem.2 fun x hx => ?_
        exact absurd ((closed x hx).symm.trans hc) (by decide)
      subst none
      obtain rfl := List.forall₂_nil_left_iff.1 rest
      exact ⟨0, by simp [Session.closing, hc]⟩

/-- A session stands for a device if one of the device's sessions is open. -/
theorem isSome_sessionFor? (h : e.Orderly) (listed : e.IsListed) (uid : String) :
    (e.sessionFor? uid).isSome = (e.sessions.filter (·.uid = uid)).any (!·.closed) := by
  rw [Bool.eq_iff_iff, Option.isSome_iff_exists, List.any_eq_true]
  constructor
  · rintro ⟨id, found⟩
    obtain ⟨s, hs, huid, hopen⟩ := listed uid id found
    have there : s ∈ e.sessions := List.mem_of_getElem? hs
    exact ⟨s, List.mem_filter.2 ⟨there, decide_eq_true huid⟩, by rw [hopen]; rfl⟩
  · rintro ⟨s, there, hopen⟩
    obtain ⟨hs, huid⟩ := List.mem_filter.1 there
    obtain ⟨id, hid⟩ := List.mem_iff_getElem?.1 hs
    obtain rfl := of_decide_eq_true huid
    exact ⟨id, h.enlisted hid (by simpa using hopen)⟩

/-- What is told of a device, in brackets. -/
structure Bracketed (e : Engine) (uid : String) (log : List Report) : Prop where
  /-- openings and closings alternate, an opening first, and an opening stands last exactly if a
  session stands for the device -/
  alternate : ∃ n, log.filter Report.isBracket =
    (List.replicate n [Report.opened, Report.closed]).flatten ++
      if (e.sessionFor? uid).isSome then [.opened] else []
  /-- what stands for the device is an open session on it -/
  found : ∀ id, e.sessionFor? uid = some id →
    ∃ s, e.session? id = some s ∧ s.uid = uid ∧ s.closed = false
  /-- all that is told lies in the blocks of the sessions that opened there, in their order: each is
  an opening, what happened in the session, with the lines of its history in order, and, if it is
  closed, its closing -/
  blocks : ∃ blocks, log = blocks.flatten ∧
    List.Forall₂ Session.Wrote (e.sessions.filter (·.uid = uid)) blocks

/-- However turns follow one another from an engine without sessions, on sessions old and new, a
listener that keeps everything has every device in brackets. -/
theorem bracketed_of_turns (h : e.sessions = []) (fresh : e.registry = {})
    (listener : e.listener = .recording (Journal.empty none)) (ts : List Turn) (uid : String) :
    (e.turns ts).Bracketed uid (marks uid (e.turns ts).listener.journal.toList) := by
  have start : e.Recording := by
    have none : ∀ id s, e.session? id = some s → s.mode ∈ Mode.all := fun id s hs => by
      rw [session?, h] at hs
      cases hs
    refine ⟨orderly_of_no_session h, isListed_of_empty fresh, none, ⟨_, listener, rfl⟩,
      by rw [h]; exact .nil, fun v => ?_⟩
    rw [h, listener]
    exact ⟨[], .nil, rfl⟩
  have kept : (e.turns ts).Recording := turns_induction start (fun _ t h => recording_turn h t) ts
  generalize e.turns ts = e' at kept
  obtain ⟨blocks, wrote, told⟩ := kept.accounts uid
  have inOrder : (e'.sessions.filter (·.uid = uid)).Pairwise fun a _ => a.closed = true := by
    refine List.pairwise_filter.2 (kept.inOrder.imp fun closed ha hb => ?_)
    exact closed ((of_decide_eq_true ha).trans (of_decide_eq_true hb).symm)
  obtain ⟨n, alternate⟩ := brackets_of_blocks wrote inOrder
  refine ⟨⟨n, ?_⟩, kept.listed uid, blocks, told, wrote⟩
  rw [told, alternate, isSome_sessionFor? kept.orderly kept.listed]

/-- On a switch, a session is replaced by another one, which leaves by `exit` and takes no line after
that; then a third one opens. -/
theorem bracketed_of_turns_replaced :
    let e : Engine :=
      { network := Network.build [.addDevice { uid := "S1", kind := .text "SWITCH_L2" }]
        bootDelay := usualBootDelay
        advised := true
        listener := .recording (Journal.empty none) }
    let ts : List Turn := [.act (.opens "S1"), .act (.line 0 "vlam"),
      .act (.answer 0 (.tip "Try vlan.")), .act (.poll 0), .act (.opens "S1"),
      .act (.line 1 "exit"), .act (.line 1 "enable"), .act (.opens "S1")]
    let log := marks "S1" (e.turns ts).listener.journal.toList
    e.sessions = [] ∧ e.registry = {} ∧ e.listener = .recording (Journal.empty none) ∧
      (e.turns ts).Bracketed "S1" log ∧ (e.turns ts).sessionFor? "S1" = some 2 ∧
      log = [.opened, .command "vlam" .user, .hint "Try vlan.", .closed,
        .opened, .command "exit" .user, .closed, .opened] := by
  intro e ts log
  have facts : (e.turns ts).sessionFor? "S1" = some 2 ∧
      log = [.opened, .command "vlam" .user, .hint "Try vlan.", .closed,
        .opened, .command "exit" .user, .closed, .opened] := by decide +kernel
  exact ⟨rfl, rfl, rfl, bracketed_of_turns rfl rfl rfl ts "S1", facts⟩

end Engine

end NetLab
