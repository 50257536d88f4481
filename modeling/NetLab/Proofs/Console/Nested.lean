import NetLab.Proofs.Console.Dispatch
import NetLab.Proofs.Console.Refusal

set_option autoImplicit false

/-!
# Lines behind `do`

`do` carries out the words behind it as in privileged mode, and these may be another `do`.  Every
level has fewer words than the one before, so a line has no more levels than words
(`Command.length_le_of_chain`).  Each level is a call within a call, and a call stack ends; what is
to hold there is said of lines with few levels (`Command.IsShallow`).

Whatever stands behind `do`, the session goes back to its place, and commands of the exec modes
reach no network; so nothing is left of such a line but a restart of the device
(`Console.scene_dispatch_do`).
-/

namespace NetLab

/-! ## Levels -/

namespace Command

variable {m : Mode} {cmd : Command} {words args : List String}

/-- The words resolve to `do`, whatever stands behind it. -/
def isDo (m : Mode) (words : List String) : Bool :=
  (resolve m words).any fun found => found.1.action = .exec

/-- From one level of a line to the next: `do` hands the words behind it to privileged mode, if
there are any. -/
inductive Nests : Mode × List String → Mode × List String → Prop where
  | behind {m : Mode} {cmd : Command} {words args : List String}
      (found : resolve m words = some (cmd, args)) (isDo : cmd.action = .exec)
      (taken : cmd.checkArity args = none) : Nests (m, words) (.privileged, args)

theorem keywords_of_exec (h : cmd ∈ table m) (exec : cmd.action = .exec) :
    cmd.keywords = ["do"] := by
  have every : ∀ c ∈ ofEveryMode, c.action = .exec → c.keywords = ["do"] := by decide +kernel
  have ofMode : ∀ c ∈ own m, c.action ≠ .exec := by
    cases m with
    | other v => simp [own]
    | _ => decide
  rcases List.mem_append.1 h with h | h
  · exact absurd exec (ofMode cmd h)
  · exact every cmd h exec

/-- The arguments of `do` are all the words behind the first. -/
theorem words_of_exec (h : resolve m words = some (cmd, args)) (exec : cmd.action = .exec) :
    ∃ w, words = w :: args := by
  obtain ⟨c, hc, h⟩ := List.exists_of_findSome?_eq_some h
  obtain ⟨as, matched, h⟩ := Option.map_eq_some_iff.1 h
  cases h
  rw [keywords_of_exec hc exec] at matched
  cases words with
  | nil => cases matched
  | cons w ws =>
    rw [Keyword.matchWords] at matched
    split at matched
    · exact ⟨w, congrArg _ (Option.some.inj matched)⟩
    · cases matched

/-- Every level takes the first word and leaves the others. -/
theorem words_of_nests {level next : Mode × List String} (h : Nests level next) :
    ∃ w, level.2 = w :: next.2 := by
  cases h with
  | behind found isDo _ => exact words_of_exec found isDo

/-- A line has no more levels than words. -/
theorem length_le_of_chain {levels : List (Mode × List String)}
    (h : ((m, words) :: levels).IsChain Nests) : levels.length ≤ words.length := by
  induction levels generalizing m words with
  | nil => exact Nat.zero_le _
  | cons next levels ih =>
    rw [List.isChain_cons_cons] at h
    obtain ⟨w, rfl⟩ : ∃ w, words = w :: next.2 := words_of_nests h.1
    exact Nat.succ_le_succ (ih h.2)

/-- So many levels of `do` a call stack holds.  A stack has room for a thousand calls, and a level
takes three; the rest is for the callers of the engine, and for what is carried out in the end. -/
def maxNesting : Nat := 250

/-- In whatever mode the line is given, it has no more levels than a call stack holds. -/
def IsShallow (line : String) : Prop :=
  ∀ m levels, ((m, Text.words line) :: levels).IsChain Nests → levels.length ≤ maxNesting

theorem isShallow_of_length {line : String} (h : (Text.words line).length ≤ maxNesting) :
    IsShallow line :=
  fun _ _ chain => (length_le_of_chain chain).trans h

end Command

/-! ## What is left of a line -/

variable {t : Timing} {c : Console} {s s' : Scene} {words : List String}

/-- What a line leaves of a scene is an effect of a command at most. -/
theorem Console.dispatch_effect (hw : ∀ w ∈ words, w ≠ "") :
    Effect t c.scene (c.dispatch t words).console.scene := by
  have sound := Console.dispatch_sound (t := t) (c := c) hw
  cases h : c.dispatch t words with
  | done output next =>
    rw [h] at sound
    exact sound.2
  | refused r next =>
    rw [Console.refused_of_dispatch h]
    exact .look
  | failed f next =>
    rw [h] at sound
    exact sound.2

/-- In the exec modes no command reaches the network or the host name. -/
theorem Effect.of_isExec (h : Effect t s s') (exec : s.standing.mode.isExec = true) :
    s'.network = s.network ∧ s'.standing.hostname = s.standing.hostname := by
  have other : ∀ m : Mode, m.isExec = false → s.standing.mode ≠ m := by
    rintro m hm rfl
    rw [exec] at hm
    cases hm
  cases h with
  | look | reload | enable _ | enter _ | close _ => exact ⟨rfl, rfl⟩
  | hostname mode _ _ | routing mode _ | domainName mode _ | selectVlan mode _
  | deleteVlan mode _ | selectLine _ mode => exact absurd mode (other .config rfl)
  | selectInterface mode _ =>
    rcases mode with mode | mode
    · exact absurd mode (other .config rfl)
    · exact absurd mode (other .interface rfl)
  | editInterface mode _ _ | tagNeighbour mode _ _ _ _ _ _ _ =>
    exact absurd mode (other .interface rfl)
  | nameVlan mode _ _ => exact absurd mode (other .vlan rfl)
  | editLine mode _ _ => exact absurd mode (other .line rfl)

namespace Console

/-- A line that resolves to `do` is refused, or it has a next level with fewer words: that one is
carried out, and then the session goes back. -/
theorem dispatch_do (h : Command.isDo c.session.mode words = true) :
    (∃ r, c.dispatch t words = .refused r c) ∨
      ∃ next, Command.Nests (c.session.mode, words) next ∧ next.2.length < words.length ∧
        c.dispatch t words = (c.privileged.dispatch t next.2).backTo c.session.place := by
  obtain ⟨⟨cmd, args⟩, found, exec⟩ : ∃ found, Command.resolve c.session.mode words = some found ∧
      found.1.action = .exec := by simpa [Command.isDo, Option.any_eq_true] using h
  obtain ⟨w, rfl⟩ := Command.words_of_exec found exec
  rw [dispatch, found]
  dsimp only
  cases harity : cmd.checkArity args with
  | some r => exact Or.inl ⟨r, rfl⟩
  | none =>
    refine Or.inr ⟨_, .behind found exec harity, Nat.lt_succ_self _, ?_⟩
    dsimp only
    rw [exec]
    rfl

theorem scene_backTo (o : Outcome) (p : Place) :
    (o.backTo p).console.scene = { o.console.scene with standing.place := p } := by
  cases o <;> rfl

/-- Nothing is left of a line behind `do` but a restart of the device. -/
theorem scene_dispatch_do (hw : ∀ w ∈ words, w ≠ "")
    (h : Command.isDo c.session.mode words = true) :
    ∃ deadline, (c.dispatch t words).console.scene =
      { c.scene with standing.deadline := deadline } := by
  obtain ⟨r, refused⟩ | ⟨next, nests, -, behind⟩ := dispatch_do (t := t) h
  · rw [refused]
    exact ⟨c.session.deadline, rfl⟩
  obtain ⟨w, hwords⟩ : ∃ w, words = w :: next.2 := Command.words_of_nests nests
  have inner : Effect t c.privileged.scene (c.privileged.dispatch t next.2).console.scene := by
    refine dispatch_effect fun v hv => hw v ?_
    rw [hwords]
    exact List.mem_cons_of_mem w hv
  rw [behind, scene_backTo]
  -- in privileged mode a command reaches the place, to which the session goes back, or restarts
  obtain ⟨place, left⟩ | left := inner.of_privileged rfl
  · rw [left]
    exact ⟨c.session.deadline, rfl⟩
  · rw [left]
    exact ⟨some (t.now.add t.bootDelay), rfl⟩

/-- What a line that only reads leaves of the network and the host name. -/
theorem scene_dispatch_reading (hw : ∀ w ∈ words, w ≠ "")
    (h : c.session.mode.isExec = true ∨ Command.isDo c.session.mode words = true) :
    (c.dispatch t words).console.scene.network = c.network ∧
      (c.dispatch t words).console.scene.standing.hostname = c.session.hostname := by
  rcases h with exec | isDo
  · exact (dispatch_effect hw).of_isExec exec
  · obtain ⟨deadline, left⟩ := scene_dispatch_do (t := t) hw isDo
    rw [left]
    exact ⟨rfl, rfl⟩

end Console

end NetLab
