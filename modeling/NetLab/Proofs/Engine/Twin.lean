import NetLab.Proofs.Console.Twin
import NetLab.Proofs.Engine.Answer
import NetLab.Proofs.Engine.Boot

set_option autoImplicit false

/-!
# Lines do the same in twin engines

Two engines are twins at one of their sessions if their networks are twins and the session stands
alike in both once it has settled.  Each may have a clock of its own.  A line is answered alike in
twin engines, and leaves twin engines, as long as boots are due when the next line is given; only
the history of a session is known to no one else.
-/

namespace NetLab

/-! ## Standings -/

namespace Standing.Twin

variable {s s' s'' : Standing}

theorem refl (s : Standing) : s.Twin s := ⟨rfl, rfl, rfl, rfl⟩

theorem trans (h : s.Twin s') (h' : s'.Twin s'') : s.Twin s'' :=
  ⟨h'.uid.trans h.uid, h'.place.trans h.place, h'.closed.trans h.closed,
    h'.booting.trans h.booting⟩

theorem settled (h : s.Twin s') : s.settled.Twin s'.settled := by
  rw [Standing.settled, Standing.settled, h.booting]
  split
  · exact ⟨h.uid, rfl, h.closed, rfl⟩
  · exact h

end Standing.Twin

/-- The replies say the same.  What is printed may be excepted, and the prompt is. -/
structure Reply.Twin (excepted : Prop) (r r' : Reply) : Prop where
  output : ¬ excepted → r'.output = r.output
  closed : r'.closed = r.closed
  refused : r'.refused = r.refused

namespace Engine

/-- The networks are twins, and the session of a number stands alike once it has settled. -/
structure Twin (id : Nat) (e e' : Engine) : Prop where
  network : e.network.Twin e'.network
  standing : Option.Rel (fun s s' : Standing => s.settled.Twin s'.settled) e.standings[id]?
    e'.standings[id]?

theorem Twin.trans {id : Nat} {e e' e'' : Engine} (h : e.Twin id e') (h' : e'.Twin id e'') :
    e.Twin id e'' where
  network := h.network.trans h'.network
  standing := rel_trans (fun twin => twin.trans) h.standing h'.standing

/-- Lines were answered alike and left twins, or they ended in the same fault. -/
inductive Answers (id : Nat) (excepted : Prop) :
    Except Fault Reply × Engine → Except Fault Reply × Engine → Prop where
  | replied {r r' : Reply} {e e' : Engine} (reply : r.Twin excepted r') (next : e.Twin id e') :
      Answers id excepted (.ok r, e) (.ok r', e')
  | failed (f : Fault) (e e' : Engine) : Answers id excepted (.error f, e) (.error f, e')

variable {e e' : Engine} {id : Nat} {s s' : Session} {line : String} {excepted : Prop}

/-! ## Outcomes -/

/-- Engines that are at scenes that are alike are twins. -/
theorem Shows.twin {l l' : List Standing} {a a' : Scene} (h : e.Shows l id a)
    (h' : e'.Shows l' id a') (there : id < l.length) (there' : id < l'.length)
    (network : a.network.Twin a'.network) (standing : a.standing.Twin a'.standing) :
    e.Twin id e' where
  network := by
    rw [h.network, h'.network]
    exact network
  standing := by
    rw [h.standings, h'.standings, List.getElem?_set_self there, List.getElem?_set_self there']
    exact .some standing.settled

theorem lt_length_standings (hs : e.session? id = some s) : id < e.standings.length :=
  (List.getElem?_eq_some_iff.1 (getElem?_standings_of_session? hs)).1

/-- Outcomes that are the same are answered alike. -/
theorem answers_conclude {o o' : Outcome} (h : o.Twin excepted o')
    (hs : e.session? id = some s) (hs' : e'.session? id = some s') :
    Answers id excepted (e.conclude id s line o) (e'.conclude id s' line o') := by
  have there := lt_length_standings hs
  have there' := lt_length_standings hs'
  cases h with
  | failed f _ => exact .failed f _ _
  | @refused r c c' next =>
    exact .replied ⟨fun _ => rfl, rfl, rfl⟩ ((shows_conclude e id s line (.refused r c)).twin
      (shows_conclude e' id s' line (.refused r c')) there there' next.network next.standing)
  | @done output output' c c' printed next =>
    have twin := (shows_conclude e id s line (.done output c)).twin
      (shows_conclude e' id s' line (.done output' c')) there there' next.network next.standing
    have same : c'.session.closed = c.session.closed := next.standing.closed
    rw [conclude, conclude, same] at twin ⊢
    by_cases closed : c.session.closed = true
    · rw [if_pos closed, if_pos closed] at twin ⊢
      exact .replied ⟨printed, rfl, rfl⟩ twin
    · rw [if_neg closed, if_neg closed] at twin ⊢
      exact .replied ⟨printed, rfl, rfl⟩ twin

/-- A line that is not blank is answered alike, unless it prints a history. -/
theorem answers_carryOut {d : Device} (network : e.network.Twin e'.network)
    (hs : e.session? id = some s) (hs' : e'.session? id = some s')
    (standing : s.standing.Twin s'.standing) (on : (e.console (s.enterLine line)).On d) :
    Answers id ((Command.meaning s.mode (Text.words line)).action? = some .showHistory)
      (e.carryOut id s line) (e'.carryOut id s' line) := by
  have twin : (e.console (s.enterLine line)).Twin (e'.console (s'.enterLine line)) :=
    ⟨network, standing⟩
  have typed : ∀ {x : Engine} {t : Session}, x.session? id = some t →
      (x.typed id t line).session? id = some (t.enterLine line) := by
    intro x t ht
    exact List.getElem?_set_self (List.getElem?_eq_some_iff.1 ht).1
  rw [carryOut_eq, carryOut_eq]
  exact answers_conclude (twin.carryOut on (Text.words line)) (typed hs) (typed hs')

/-! ## Lines -/

/-- A line, given by a value of any kind, prints the history of the session. -/
def recalls (e : Engine) (id : Nat) (line : Value) : Bool :=
  match line.line with
  | .ok text => e.action? id text = some .showHistory
  | .error _ => false

section

variable {clock clock' : Nat → Double} {k k' : Nat}

theorem Twin.sessions (h : e.Twin id e') :
    Option.Rel (fun s s' : Session => s.standing.settled.Twin s'.standing.settled) (e.session? id)
      (e'.session? id) := by
  have standing := h.standing
  rw [getElem?_standings, getElem?_standings] at standing
  generalize e.session? id = x at standing ⊢
  generalize e'.session? id = y at standing ⊢
  match x, y, standing with
  | none, none, _ => exact .none
  | some s, some s', .some twin => exact .some twin

theorem Twin.all_closed (h : e.Twin id e') :
    (e'.session? id).all (·.closed) = (e.session? id).all (·.closed) := by
  have sessions := h.sessions
  generalize e.session? id = x at sessions
  generalize e'.session? id = y at sessions
  cases sessions with
  | none => rfl
  | some twin => simpa using twin.closed

theorem taker?_of_closed (h : (e.session? id).all (·.closed) = true) : e.taker? id = none := by
  cases ht : e.taker? id with
  | none => rfl
  | some s => exact absurd h (not_closed_of_taker? ht)

theorem isListening_of_taker? (h : e.taker? id = some s) : e.isListening id = true := by
  obtain ⟨hs, -, booted, -⟩ := taker?_eq_some.1 h
  rw [isListening, hs, Option.any_some, booted]
  simpa using not_closed_of_taker? h

variable (h : e.Twin id e') (tidy : e.Tidy) (punctual : e.Punctual clock id k)
  (now : e.clock = clock k) (punctual' : e'.Punctual clock' id k') (now' : e'.clock = clock' k')

include h tidy punctual now punctual' now'

/-- In twin engines the session is closed in both, or takes lines in both. -/
theorem Twin.takers :
    ((e.session? id).all (·.closed) = true ∧ (e'.session? id).all (·.closed) = true) ∨
      ∃ s s', e.taker? id = some s ∧ e'.taker? id = some s' ∧ s.standing.Twin s'.standing := by
  have sessions := h.sessions
  generalize hx : e.session? id = x at sessions
  generalize hy : e'.session? id = y at sessions
  cases sessions with
  | none => exact Or.inl ⟨rfl, rfl⟩
  | @some s₀ s₀' twin =>
    have same : s₀'.closed = s₀.closed := by simpa using twin.closed
    by_cases closed : s₀.closed = true
    · exact Or.inl ⟨closed, same.trans closed⟩
    · rw [Bool.not_eq_true] at closed
      obtain ⟨s, hs, settled⟩ := punctual.exists_polled now hx
      obtain ⟨s', hs', settled'⟩ := punctual'.exists_polled now' hy
      rw [← settled, ← settled'] at twin
      have sopen : s.closed = false := (closed_of_poll hx hs).trans closed
      have booted : s.booting = false := by
        change s.standing.deadline.isSome = false
        rw [settled, Standing.deadline_settled]
        rfl
      obtain ⟨d, -, suits⟩ := tidy.poll.coherent.suits (getElem?_standings_of_session? hs) sopen
      have known : s.mode.isKey = true := isKey_of_fits suits.place
      have known' : s'.mode.isKey = true := by
        rwa [Session.mode, show s'.place = s.place from twin.place]
      exact Or.inr ⟨s, s', taker?_eq_some.2 ⟨hs, sopen, booted, known⟩,
        taker?_eq_some.2 ⟨hs', twin.closed.trans sopen, twin.booting.trans booted, known'⟩, twin⟩

/-- A line comes to the same action in twin engines. -/
theorem Twin.action?_eq (line : String) : e'.action? id line = e.action? id line := by
  obtain ⟨closed, closed'⟩ | ⟨s, s', hs, hs', twin⟩ := h.takers tidy punctual now punctual' now'
  · rw [action?, action?, meaning?, meaning?, taker?_of_closed closed, taker?_of_closed closed']
  · have mode : s'.mode = s.mode := congrArg Place.mode twin.place
    rw [action?, action?, meaning?, meaning?, hs, hs', Option.map_some, Option.map_some, mode]

/-- A line is answered alike in twin engines, unless it prints a history. -/
theorem Twin.execute (line : String) : Answers id (e.action? id line = some .showHistory)
    (e.execute id line) (e'.execute id line) := by
  obtain ⟨closed, closed'⟩ | ⟨s, s', hs, hs', twin⟩ := h.takers tidy punctual now punctual' now'
  · rw [execute_of_closed closed, execute_of_closed closed']
    exact .replied ⟨fun _ => rfl, rfl, rfl⟩ h
  · obtain ⟨there, sopen, -, -⟩ := taker?_eq_some.1 hs
    obtain ⟨there', -, -, -⟩ := taker?_eq_some.1 hs'
    have network : (e.poll id).network.Twin (e'.poll id).network := by
      rw [network_poll, network_poll]
      exact h.network
    rw [execute_of_taker? hs, execute_of_taker? hs']
    by_cases blank : Text.trim line = ""
    · have shown : ∀ {x : Engine} {t : Session}, x.session? id = some t →
          (x.setSession id t.enterBlank).Shows x.standings id ⟨x.network, t.standing⟩ :=
        fun _ => ⟨rfl, standings_setSession _ _ _⟩
      rw [if_pos blank, if_pos blank]
      exact .replied ⟨fun _ => rfl, rfl, rfl⟩ ((shown there).twin (shown there')
        (lt_length_standings there) (lt_length_standings there') network twin)
    · obtain ⟨d, on⟩ := tidy.poll.on there sopen (Text.trim line)
      rw [if_neg blank, if_neg blank, action?, meaning?, if_neg blank, hs, Option.map_some,
        Option.bind_some]
      exact answers_carryOut network there there' twin on

/-- A line that is given by a value of any kind is answered alike in twin engines. -/
theorem Twin.executeValue (line : Value) : e'.recalls id line = e.recalls id line ∧
      Answers id (e.recalls id line = true) (e.executeValue id line) (e'.executeValue id line) := by
  rw [recalls, recalls, Engine.executeValue, Engine.executeValue]
  cases line.line with
  | ok text =>
    have answers := h.execute tidy punctual now punctual' now' text
    dsimp only
    rw [h.action?_eq tidy punctual now punctual' now']
    exact ⟨rfl, by simpa using answers⟩
  | error f =>
    refine ⟨rfl, ?_⟩
    dsimp only
    obtain ⟨closed, closed'⟩ | ⟨s, s', hs, hs', -⟩ := h.takers tidy punctual now punctual' now'
    · rw [isListening, isListening, closed, closed']
      simp only [Bool.not_true, Bool.false_and, Bool.false_eq_true, if_false]
      rw [execute_of_closed closed, execute_of_closed closed']
      exact .replied ⟨fun _ => rfl, rfl, rfl⟩ h
    · rw [isListening_of_taker? hs, isListening_of_taker? hs', if_pos rfl, if_pos rfl]
      exact .failed f _ _

end

end Engine

end NetLab
