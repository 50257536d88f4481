import NetLab.Proofs.Console.Nested
import NetLab.Proofs.Engine.Meaning
import NetLab.Proofs.Network.Build

set_option autoImplicit false

/-!
# Lines that only read

A line leaves the network and the host name of its session if the session is in an exec mode, or if
the line resolves to `do`; in the latter case the session also stays where it stands and stays open,
whatever the words behind `do` are (`Engine.execute_read_only`).  This holds in every engine.
-/

namespace NetLab.Engine

variable {e : Engine} {id : Nat} {line : String} {s : Session}

/-- A line that is not blank leaves what its words leave. -/
theorem shows_carryOut (e : Engine) (id : Nat) (s : Session) (line : String) :
    (e.carryOut id s line).2.Shows e.standings id
      ((e.console (s.enterLine line)).dispatch ⟨e.clock, e.bootDelay⟩
        (Text.words line)).console.scene := by
  have meant : (e.console (s.enterLine line)).dispatch ⟨e.clock, e.bootDelay⟩ (Text.words line) =
      (e.console (s.enterLine line)).carryOut ⟨e.clock, e.bootDelay⟩
        (Command.meaning s.mode (Text.words line)) := Console.dispatch_eq _ _ _
  have typed : (e.typed id s line).standings = e.standings.set id s.standing :=
    standings_setSession e id _
  have shown := shows_conclude (e.typed id s line) id (s.enterLine line) line
    ((e.console (s.enterLine line)).carryOut ⟨e.clock, e.bootDelay⟩
      (Command.meaning s.mode (Text.words line)))
  rw [carryOut_eq, meant]
  exact ⟨shown.network, by rw [shown.standings, typed, List.set_set]⟩

/-- A session that is at a scene is one that stands as the scene says. -/
theorem Shows.exists_session {others : List Standing} {sc : Scene} (h : e.Shows others id sc)
    (there : id < others.length) :
    ∃ s, e.session? id = some s ∧ s.standing = sc.standing := by
  have standing : (e.session? id).map Session.standing = some sc.standing := by
    rw [← getElem?_standings, h.standings, List.getElem?_set_self there]
  exact Option.map_eq_some_iff.1 standing

/-- An open session takes nothing of a line, or what its words leave. -/
theorem shows_execute {s₀ : Session} (hs₀ : e.session? id = some s₀) (isOpen : s₀.closed = false)
    (hs : (e.poll id).session? id = some s) (line : String) :
    (e.execute id line).2.Shows (e.poll id).standings id ⟨e.network, s.standing⟩ ∨
      ∃ c : Console, c.scene = ⟨e.network, s.standing⟩ ∧
        (e.execute id line).2.Shows (e.poll id).standings id
          (c.dispatch ⟨e.clock, e.bootDelay⟩ (Text.words (Text.trim line))).console.scene := by
  have notClosed : ¬ (e.session? id).all (·.closed) = true := by simp [hs₀, isOpen]
  have polled : (e.poll id).Shows (e.poll id).standings id ⟨e.network, s.standing⟩ :=
    ⟨network_poll e id, (set_standing hs rfl).symm⟩
  rw [execute, if_neg notClosed]
  simp only [hs]
  split
  · exact Or.inl polled
  · split
    · refine Or.inl (polled.setSession _ ?_)
      split <;> rfl
    · split
      · exact Or.inl (polled.setSession _ rfl)
      · have found : ((e.poll id).console (s.enterLine (Text.trim line))).scene =
            ⟨e.network, s.standing⟩ := by
          rw [← network_poll e id]
          rfl
        have shown := shows_carryOut (e.poll id) id s (Text.trim line)
        rw [clock_poll, bootDelay_poll] at shown
        exact Or.inr ⟨_, found, shown⟩

/-- What an open session leaves of a line that only reads. -/
theorem shows_execute_reading {s₀ : Session} (hs₀ : e.session? id = some s₀)
    (isOpen : s₀.closed = false) (hs : (e.poll id).session? id = some s)
    (reads : s.mode.isExec = true ∨
      Command.isDo s.mode (Text.words (Text.trim line)) = true) :
    ∃ sc, (e.execute id line).2.Shows (e.poll id).standings id sc ∧ sc.network = e.network ∧
      sc.standing.hostname = s.hostname ∧
      (Command.isDo s.mode (Text.words (Text.trim line)) = true →
        sc.standing.place = s.place ∧ sc.standing.closed = s.closed) := by
  have typed : ∀ w ∈ Text.words (Text.trim line), w ≠ "" := fun w => Text.ne_empty_of_mem_words
  rcases shows_execute hs₀ isOpen hs line with shown | ⟨c, found, shown⟩
  · exact ⟨_, shown, rfl, rfl, fun _ => ⟨rfl, rfl⟩⟩
  obtain ⟨network, standing⟩ : c.network = e.network ∧ c.session.standing = s.standing :=
    Scene.mk.inj found
  have mode : c.session.mode = s.mode := congrArg Standing.mode standing
  rw [← mode] at reads ⊢
  obtain ⟨network', hostname'⟩ :=
    Console.scene_dispatch_reading (t := ⟨e.clock, e.bootDelay⟩) typed reads
  refine ⟨_, shown, network'.trans network,
    hostname'.trans (congrArg Standing.hostname standing), fun isDo => ?_⟩
  obtain ⟨deadline, left⟩ :=
    Console.scene_dispatch_do (t := ⟨e.clock, e.bootDelay⟩) typed isDo
  rw [left]
  exact ⟨congrArg Standing.place standing, congrArg Standing.closed standing⟩

/-- Polling a session leaves its host name. -/
theorem hostname_of_poll {s₀ : Session} (hs₀ : e.session? id = some s₀)
    (hs : (e.poll id).session? id = some s) : s.hostname = s₀.hostname := by
  have polled : (pollStanding e.clock s₀.standing).hostname = s₀.hostname := by
    rw [pollStanding]
    split <;> rfl
  rw [← polled, ← standing_of_poll hs₀ hs]
  rfl

/-- A line leaves the network and the host name of its session if the session is found in an exec
mode, or if the line resolves to `do`.  Then it also leaves the session open and where it stands, at
whatever depth of `do`; every level of `do` is refused or hands fewer words on to privileged mode, so
that a line has no more levels than words.  A closed session does nothing at all. -/
theorem execute_read_only (e : Engine) (id : Nat) (line : String) :
    ((e.session? id).all (·.closed) = true → (e.execute id line).2 = e) ∧
    ∀ s₀ s, e.session? id = some s₀ → s₀.closed = false → (e.poll id).session? id = some s →
      let words := Text.words (Text.trim line)
      (s.mode.isExec = true ∨ Command.isDo s.mode words = true →
        (e.execute id line).2.network = e.network ∧
          ∃ s', (e.execute id line).2.session? id = some s' ∧ s'.hostname = s₀.hostname ∧
            (Command.isDo s.mode words = true → s'.place = s.place ∧ s'.closed = false)) ∧
      (∀ (t : Timing) (c : Console) (level : List String),
        Command.isDo c.session.mode level = true →
          (∃ r, c.dispatch t level = .refused r c) ∨
            ∃ next, Command.Nests (c.session.mode, level) next ∧
              next.2.length < level.length ∧
              c.dispatch t level = (c.privileged.dispatch t next.2).backTo c.session.place) ∧
      ∀ levels, ((s.mode, words) :: levels).IsChain Command.Nests →
        levels.length ≤ words.length := by
  refine ⟨fun closed => by rw [execute_of_closed closed], fun s₀ s hs₀ isOpen hs => ?_⟩
  refine ⟨fun reads => ?_, fun t c level isDo => Console.dispatch_do isDo,
    fun levels chain => Command.length_le_of_chain chain⟩
  obtain ⟨sc, shown, network, hostname, stays⟩ := shows_execute_reading hs₀ isOpen hs reads
  have there : id < (e.poll id).standings.length :=
    (List.getElem?_eq_some_iff.1 (getElem?_standings_of_session? hs)).1
  obtain ⟨s', hs', standing⟩ := shown.exists_session there
  refine ⟨shown.network.trans network, s', hs', ?_, fun isDo => ?_⟩
  · rw [← hostname_of_poll hs₀ hs, ← hostname, ← standing]
    rfl
  · obtain ⟨place, closed⟩ := stays isDo
    rw [← standing] at place closed
    exact ⟨place, closed.trans ((closed_of_poll hs₀ hs).trans isOpen)⟩

/-- From an interface that is being configured, a restart two `do`s deep; the same line in a session
that was closed. -/
theorem execute_read_only_reload :
    let place : Place := { mode := .interface, interface := .text "GigabitEthernet0/1" }
    let e : Engine :=
      { network := Network.build [.addDevice { uid := "S1", kind := .text "SWITCH_L2" },
          .ensureInterface "S1" (.text "GigabitEthernet0/1")]
        sessions := [{ uid := "S1", hostname := .text "S1", place := place },
          { uid := "S1", hostname := .text "S1", closed := true }]
        bootDelay := usualBootDelay }
    (e.execute 0 "do do reload").2.network = e.network ∧
      (∃ s, (e.execute 0 "do do reload").2.session? 0 = some s ∧ s.hostname = .text "S1" ∧
        s.place = place ∧ s.closed = false) ∧
      (e.execute 1 "do do reload").2 = e := by
  intro place e
  have polled : (e.poll 0).session? 0 =
      some { uid := "S1", hostname := .text "S1", place := place } := by decide +kernel
  have isDo : Command.isDo .interface (Text.words (Text.trim "do do reload")) = true := by
    decide +kernel
  obtain ⟨network, s, hs, hostname, stays⟩ :=
    ((execute_read_only e 0 "do do reload").2 _ _ rfl rfl polled).1 (Or.inr isDo)
  exact ⟨network, ⟨s, hs, hostname, stays isDo⟩, (execute_read_only e 1 "do do reload").1 rfl⟩

end NetLab.Engine
