import NetLab.Proofs.Console.Meaning
import NetLab.Proofs.Engine.Run

set_option autoImplicit false

/-!
# What lines mean to an engine

A line that is not blank is taken by a session that, once it has been polled, is open, has booted
and is in a mode that can be looked up (`Engine.taker?`); any other line changes no network.  A line
that is taken is carried out as what it means in the mode of the session (`Engine.execute_taken`).
That a run never comes to an action is said of its lines one after the other, each where it is
given (`Engine.avoids`).
-/

namespace NetLab

namespace Engine

variable {e : Engine} {id : Nat} {line : String} {s : Session}

/-! ## Sessions that take a line -/

/-- The session of a number after it was polled, if it takes lines. -/
def taker? (e : Engine) (id : Nat) : Option Session :=
  ((e.poll id).session? id).filter fun s => !s.closed && !s.booting && s.mode.isKey

/-- What a line means, if it is not blank and a session takes it. -/
def meaning? (e : Engine) (id : Nat) (line : String) : Option Command.Meaning :=
  if Text.trim line = "" then none
  else (e.taker? id).map fun s => Command.meaning s.mode (Text.words (Text.trim line))

/-- The action that a line comes to, if it is not refused. -/
def action? (e : Engine) (id : Nat) (line : String) : Option Action :=
  (e.meaning? id line).bind (·.action?)

theorem taker?_eq_some : e.taker? id = some s ↔
    (e.poll id).session? id = some s ∧ s.closed = false ∧ s.booting = false ∧
      s.mode.isKey = true := by
  simp [taker?, Option.filter_eq_some_iff, and_assoc]

/-! ## What is made of an outcome -/

/-- The engine with a line typed in a session. -/
def typed (e : Engine) (id : Nat) (s : Session) (line : String) : Engine :=
  (e.setSession id (s.enterLine line)).tell ⟨s.uid, .command line s.mode⟩

/-- What the engine makes of the outcome of a line. -/
def conclude (e : Engine) (id : Nat) (s : Session) (line : String) :
    Outcome → Except Fault Reply × Engine
  | .failed f c => (.error f, e.accept id c)
  | .refused r c => ((e.accept id c).finishLine id c.session line r.message).map .ok fun e => e
  | .done output c =>
    if c.session.closed then
      (.ok { output, closed := true }, (e.accept id c).tell ⟨s.uid, .output line output⟩)
    else ((e.accept id c).finishLine id c.session line output).map .ok fun e => e

/-- A line is typed and carried out as what it means, and the engine takes over the outcome. -/
theorem carryOut_eq (e : Engine) (id : Nat) (s : Session) (line : String) :
    e.carryOut id s line = (e.typed id s line).conclude id (s.enterLine line) line
      ((e.console (s.enterLine line)).carryOut ⟨e.clock, e.bootDelay⟩
        (Command.meaning s.mode (Text.words line))) := by
  have meant : (e.console (s.enterLine line)).dispatch ⟨e.clock, e.bootDelay⟩ (Text.words line) =
      (e.console (s.enterLine line)).carryOut ⟨e.clock, e.bootDelay⟩
        (Command.meaning s.mode (Text.words line)) := Console.dispatch_eq _ _ _
  rw [← meant, carryOut]
  dsimp only
  change (match (e.console (s.enterLine line)).dispatch ⟨e.clock, e.bootDelay⟩
      (Text.words line) with | .failed f c => _ | .refused r c => _ | .done output c => _ :
        Except Fault Reply × Engine) = _
  cases (e.console (s.enterLine line)).dispatch ⟨e.clock, e.bootDelay⟩ (Text.words line) with
  | failed f c => rfl
  | refused r => rfl
  | done output c =>
    rw [conclude]
    dsimp only
    split
    · rfl
    · rfl

/-- What a command did is taken over, whatever became of it. -/
theorem shows_conclude (e : Engine) (id : Nat) (s : Session) (line : String) (o : Outcome) :
    (e.conclude id s line o).2.Shows e.standings id o.console.scene := by
  cases o with
  | failed f c => exact shows_accept e id c
  | refused r c => exact (shows_accept e id c).finishLine rfl line r.message
  | done output c =>
    rw [conclude]
    split
    · exact (shows_accept e id c).tell _
    · exact (shows_accept e id c).finishLine rfl line output

/-- What happens to the network on a line is up to what is carried out. -/
theorem network_carryOut (e : Engine) (id : Nat) (s : Session) (line : String) :
    (e.carryOut id s line).2.network =
      ((e.console (s.enterLine line)).carryOut ⟨e.clock, e.bootDelay⟩
        (Command.meaning s.mode (Text.words line))).console.network := by
  rw [carryOut_eq]
  exact (shows_conclude _ _ _ _ _).network

/-! ## Lines that are taken -/

/-- What can become of a line, by the session that it is given to. -/
inductive Executes (e : Engine) (id : Nat) (line : String) : Except Fault Reply × Engine → Prop where
  | closed (all : (e.session? id).all (·.closed) = true) :
      Executes e id line (.ok { closed := true }, e)
  | booting {s : Session} (there : (e.poll id).session? id = some s) (isOpen : s.closed = false)
      (booting : s.booting = true) : Executes e id line (.ok { refused := true }, e.poll id)
  /-- the session is in a mode that cannot be looked up -/
  | lostMode {s : Session} (there : (e.poll id).session? id = some s) (isOpen : s.closed = false)
      (lost : s.mode.isKey = false) (s' : Session) :
      Executes e id line (.error .wrongKind, (e.poll id).setSession id s')
  | blank {s : Session} (taken : e.taker? id = some s) (isBlank : Text.trim line = "") :
      Executes e id line (.ok { prompt := s.prompt }, (e.poll id).setSession id s.enterBlank)
  | taken {s : Session} (taken : e.taker? id = some s) (notBlank : Text.trim line ≠ "") :
      Executes e id line ((e.poll id).carryOut id s (Text.trim line))

theorem executes (e : Engine) (id : Nat) (line : String) :
    Executes e id line (e.execute id line) := by
  obtain hall | ⟨s₀, hs₀, hopen⟩ := closed_or_open e id
  · rw [execute_of_closed hall]
    exact .closed hall
  have notClosed : ¬ (e.session? id).all (·.closed) = true := by simp [hs₀, hopen]
  have polled : ((e.poll id).standings[id]?).isSome = true := by
    rw [standings_poll hs₀, getElem?_polled hs₀]
    rfl
  rw [getElem?_standings, Option.isSome_map] at polled
  obtain ⟨s, hs⟩ := Option.isSome_iff_exists.1 polled
  have hsopen : s.closed = false := (closed_of_poll hs₀ hs).trans hopen
  rw [execute, if_neg notClosed]
  dsimp only
  rw [hs]
  dsimp only
  split
  · next hbooting => exact .booting hs hsopen hbooting
  · next hbooted =>
    split
    · next hkey => exact .lostMode hs hsopen (by simpa using hkey) _
    · next hkey =>
      have taken : e.taker? id = some s :=
        taker?_eq_some.2 ⟨hs, hsopen, by simpa using hbooted, by simpa using hkey⟩
      split
      · next hblank => exact .blank taken hblank
      · next hline => exact .taken taken hline

/-- A session that takes a line is open, also before it was polled. -/
theorem not_closed_of_taker? (h : e.taker? id = some s) :
    ¬ (e.session? id).all (·.closed) = true := by
  obtain ⟨hs, hopen, -, -⟩ := taker?_eq_some.1 h
  intro hall
  cases h₀ : e.session? id with
  | none =>
    rw [poll_of_none h₀, h₀] at hs
    cases hs
  | some s₀ =>
    rw [h₀, Option.all_some, ← closed_of_poll h₀ hs, hopen] at hall
    cases hall

/-- A session that takes lines carries out what is not blank, and shows its prompt otherwise. -/
theorem execute_of_taker? (h : e.taker? id = some s) (line : String) :
    e.execute id line =
      if Text.trim line = "" then (.ok { prompt := s.prompt }, (e.poll id).setSession id s.enterBlank)
      else (e.poll id).carryOut id s (Text.trim line) := by
  obtain ⟨hs, -, hbooted, hkey⟩ := taker?_eq_some.1 h
  rw [execute, if_neg (not_closed_of_taker? h)]
  dsimp only
  rw [hs]
  dsimp only
  rw [hbooted, hkey, if_neg Bool.false_ne_true, if_neg (by simp)]

/-- A line that is taken is carried out in the polled session. -/
theorem execute_taken (h : e.taker? id = some s) (hline : Text.trim line ≠ "") :
    e.execute id line = (e.poll id).carryOut id s (Text.trim line) :=
  (execute_of_taker? h line).trans (if_neg hline)

/-- A reply says that the session is closed only if it is. -/
theorem closed_of_execute {r : Reply} (h : (e.execute id line).1 = .ok r) (closed : r.closed = true) :
    ((e.execute id line).2.session? id).all (·.closed) = true := by
  have executed := executes e id line
  generalize e.execute id line = result at executed h
  cases executed with
  | closed all => exact all
  | booting _ _ _ =>
    obtain rfl := Except.ok.inj h
    cases closed
  | lostMode _ _ _ _ => cases h
  | blank _ _ =>
    obtain rfl := Except.ok.inj h
    cases closed
  | @taken s _ _ =>
    rw [carryOut_eq] at h ⊢
    generalize ((e.poll id).console (s.enterLine (Text.trim line))).carryOut
      ⟨(e.poll id).clock, (e.poll id).bootDelay⟩
      (Command.meaning s.mode (Text.words (Text.trim line))) = o at h ⊢
    cases o with
    | failed f c => cases h
    | refused r =>
      obtain rfl := Except.ok.inj h
      cases closed
    | done output c =>
      by_cases hc : c.session.closed = true
      · exact (shows_conclude _ id _ _ (.done output c)).all_closed hc
      · rw [conclude, if_neg hc] at h
        obtain rfl := Except.ok.inj h
        cases closed

/-- A line that is blank, or that no session takes, leaves the network. -/
theorem network_execute_of_none (h : e.meaning? id line = none) :
    (e.execute id line).2.network = e.network := by
  have polled : (e.poll id).network = e.network := network_poll e id
  generalize hresult : e.execute id line = result
  have executed := executes e id line
  rw [hresult] at executed
  cases executed with
  | closed _ => rfl
  | booting _ _ _ => exact polled
  | lostMode _ _ _ _ => exact polled
  | blank _ _ => exact polled
  | taken taken notBlank => simp [meaning?, notBlank, taken] at h

/-- A line that means something leaves the network that carrying out its meaning leaves. -/
theorem network_execute_of_some {m : Command.Meaning} (h : e.meaning? id line = some m) :
    ∃ c : Console, c.network = e.network ∧
      (e.execute id line).2.network = (c.carryOut ⟨e.clock, e.bootDelay⟩ m).console.network := by
  rw [meaning?] at h
  split at h
  · cases h
  · next hline =>
    obtain ⟨s, hs, rfl⟩ := Option.map_eq_some_iff.1 h
    refine ⟨(e.poll id).console (s.enterLine (Text.trim line)), network_poll e id, ?_⟩
    rw [execute_taken hs hline, network_carryOut, clock_poll, bootDelay_poll]

/-! ## Runs that avoid an action -/

/-- Something that can happen is a line that comes to an action. -/
def comesTo (a : Action) (e : Engine) : Act → Bool
  | .line id text => e.action? id text = some a
  | _ => false

/-- No line of a run comes to an action. -/
def avoids (a : Action) (e : Engine) : List Act → Bool
  | [] => true
  | x :: acts => !e.comesTo a x && (e.act x).avoids a acts

end Engine

end NetLab
