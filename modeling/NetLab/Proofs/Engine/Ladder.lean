import NetLab.Proofs.Engine.Reload

set_option autoImplicit false

/-!
# The privilege ladder

The modes are rungs: user mode, privileged mode, configuration mode, and the modes of an interface,
a VLAN and a terminal line.  A line takes its session to a rung beside the one where it stands at
most, or from an inner mode back to privileged mode at once; `do` leaves it where it stands.  So a
session that stands in user mode comes to no configuration mode before it has executed `enable`, and
`configure terminal` after that.
-/

namespace NetLab

/-! ## Modes -/

/-- The modes in which one line can leave a session that stands in a mode. -/
def Mode.reach : Mode → List Mode
  | .user => [.user, .privileged]
  | .privileged => [.privileged, .user, .config]
  | .config => [.config, .privileged, .interface, .vlan, .line]
  | m => [m, .config, .privileged]

namespace Mode

theorem mem_reach_self (m : Mode) : m ∈ m.reach := by
  cases m <;> exact List.mem_cons_self ..

/-- From the six modes only these are reached. -/
theorem mem_all_of_reach {m m' : Mode} (h : m ∈ all) (reached : m' ∈ m.reach) : m' ∈ all := by
  cases m with
  | other v => simp [all] at h
  | _ =>
    simp only [reach, List.mem_cons, List.not_mem_nil, or_false] at reached
    simp only [all, List.mem_cons, List.not_mem_nil, or_false]
    tauto

theorem isKey_of_mem_all {m : Mode} (h : m ∈ all) : m.isKey = true := by
  cases m with
  | other v => simp [all] at h
  | _ => rfl

/-- In user mode and in privileged mode nothing is configured. -/
theorem ne_of_not_isExec {m : Mode} (h : m.isExec = false) : m ≠ .user ∧ m ≠ .privileged := by
  constructor <;> (rintro rfl; cases h)

end Mode

namespace Action

variable {a : Action} {m m' : Mode}

/-- Wherever an action of a mode takes a session, it is a mode beside. -/
theorem target?_mem_reach (has : a.isOf m = true) (leads : a.target? m = some m') :
    m' ∈ m.reach := by
  cases a with
  | exit => cases m <;> cases leads <;> simp [Mode.reach]
  | finish =>
    rw [target?, Option.ite_none_left_eq_some] at leads
    obtain ⟨configuring, leads⟩ := leads
    obtain rfl := Option.some.inj leads
    cases m <;> simp [Mode.isExec] at configuring <;> simp [Mode.reach]
  | interface =>
    cases leads
    obtain rfl | rfl : m = .config ∨ m = .interface := by simpa [isOf] using has
    · simp [Mode.reach]
    · simp [Mode.reach]
  | enable | disable | configure | vlan | line =>
    cases leads
    simp only [isOf, decide_eq_true_eq] at has
    simp [has, Mode.reach]
  | _ => cases leads

/-- From user mode nothing but `enable` leads anywhere. -/
theorem eq_enable_of_target? (has : a.isOf .user = true) (leads : a.target? .user = some m') :
    a = .enable ∧ m' = .privileged := by
  cases a with
  | enable => exact ⟨rfl, (Option.some.inj leads).symm⟩
  | disable | configure | interface | vlan | line => cases has
  | _ => cases leads

/-- From privileged mode nothing but `configure terminal` leads to a mode of configuration. -/
theorem eq_configure_of_target? (has : a.isOf .privileged = true)
    (leads : a.target? .privileged = some m') : m' = .user ∨ a = .configure := by
  cases a with
  | configure => exact Or.inr rfl
  | disable | exit => exact Or.inl (Option.some.inj leads).symm
  | enable | interface | vlan | line => cases has
  | _ => cases leads

end Action

/-! ## Lines that resolve to a command -/

namespace Command

variable {m : Mode} {words args : List String} {a : Action} {cmd : Command} {name : String}

/-- The words resolve to the command of this name. -/
def resolvesTo (m : Mode) (words : List String) (name : String) : Bool :=
  (resolve m words).any fun found => found.1.canonical = name

/-- Three commands are told by their actions, and `exit` takes any arguments. -/
theorem canonical_of_mem_table (h : cmd ∈ table m) :
    (cmd.action = .enable → cmd.canonical = "enable") ∧
      (cmd.action = .configure → cmd.canonical = "configure terminal") ∧
      (cmd.action = .exit ↔ cmd.canonical = "exit") ∧
      (cmd.action = .exit → cmd.maxArgs = none) := by
  have every : ∀ c ∈ ofEveryMode, (c.action = .enable → c.canonical = "enable") ∧
      (c.action = .configure → c.canonical = "configure terminal") ∧
      (c.action = .exit ↔ c.canonical = "exit") ∧ (c.action = .exit → c.maxArgs = none) := by
    decide
  have ofMode : ∀ c ∈ own m, (c.action = .enable → c.canonical = "enable") ∧
      (c.action = .configure → c.canonical = "configure terminal") ∧
      (c.action = .exit ↔ c.canonical = "exit") ∧ (c.action = .exit → c.maxArgs = none) := by
    cases m with
    | other v => simp [own]
    | _ => decide
  rcases List.mem_append.1 h with h | h
  · exact ofMode cmd h
  · exact every cmd h

theorem resolvesTo_of_resolve (found : resolve m words = some (cmd, args))
    (named : cmd.canonical = name) : resolvesTo m words name = true := by
  rw [resolvesTo, found]
  exact decide_eq_true named

/-- A line that means an action where its session stands resolves to a command with the action. -/
theorem resolve_of_plain (h : meaning m words = .plain a args) :
    ∃ cmd, resolve m words = some (cmd, args) ∧ cmd ∈ table m ∧ cmd.action = a := by
  cases words with
  | nil => cases h
  | cons w ws =>
    rw [meaning] at h
    split at h
    · cases h
    · next cmd as found =>
      split at h
      · cases h
      · split at h
        · cases inner : meaning .privileged ws <;> simp [inner, Meaning.underDo] at h
        · obtain ⟨rfl, rfl⟩ : cmd.action = a ∧ as = args := by simpa using h
          exact ⟨cmd, found, (resolve_eq_some found).1, rfl⟩

/-- A line that resolves to `exit` means it. -/
theorem meaning_of_exit (h : resolvesTo m words "exit" = true) :
    ∃ args, meaning m words = .plain .exit args := by
  obtain ⟨⟨cmd, args⟩, found, name⟩ := (Option.any_eq_true _ _).1 h
  have mem : cmd ∈ table m := (resolve_eq_some found).1
  obtain ⟨-, -, isExit, unbounded⟩ := canonical_of_mem_table mem
  have exit : cmd.action = .exit := isExit.2 (of_decide_eq_true name)
  have arity : cmd.checkArity args = none := by
    simp [checkArity, minArgs_of_mem_table mem, exit, Action.needsWord, unbounded exit]
  cases words with
  | nil =>
    -- the keyword asks for a word
    obtain ⟨c, -, found⟩ := List.exists_of_findSome?_eq_some found
    obtain ⟨as, matched, same⟩ := Option.map_eq_some_iff.1 found
    obtain ⟨rfl, rfl⟩ := Prod.mk.inj same
    have keywords : c.keywords = ["exit"] := by
      rw [Command.keywords, of_decide_eq_true name]
      decide +kernel
    rw [keywords] at matched
    cases matched
  | cons w ws =>
    refine ⟨args, ?_⟩
    rw [meaning, found]
    dsimp only
    rw [arity, exit]

end Command


/-! ## One line -/

namespace Session

variable {m : Command.Meaning} {s s' : Session} {rs : List Report} {words : List String}

/-- A line leaves the mode, or it resolves to a command that leads from there to the new one. -/
theorem Took.mode (h : s.Took (Command.meaning s.mode words) s' rs) :
    s'.mode = s.mode ∨ ∃ cmd args, Command.resolve s.mode words = some (cmd, args) ∧
      cmd ∈ Command.table s.mode ∧ cmd.action.target? s.mode = some s'.mode := by
  cases h with
  | refused _ => exact Or.inl rfl
  | plain meant step =>
    obtain ⟨cmd, found, mem, rfl⟩ := Command.resolve_of_plain meant
    cases step with
    | goes leads => exact Or.inr ⟨cmd, _, found, mem, leads⟩
    | _ => exact Or.inl rfl
  | privileged _ _ => exact Or.inl rfl

/-- A line that closes its session is given in user mode and resolves to `exit`. -/
theorem Took.exit_of_closed (h : s.Took (Command.meaning s.mode words) s' rs)
    (hopen : s.closed = false) (closed : s'.closed = true) :
    s.mode = .user ∧ Command.resolvesTo .user words "exit" = true := by
  have still : s.closed ≠ true := by simp [hopen]
  cases h with
  | refused _ => exact absurd closed still
  | plain meant step =>
    obtain ⟨cmd, found, mem, rfl⟩ := Command.resolve_of_plain meant
    cases step with
    | closes exit user =>
      rw [user] at found mem
      obtain ⟨-, -, isExit, -⟩ := Command.canonical_of_mem_table mem
      exact ⟨user, Command.resolvesTo_of_resolve found (isExit.1 exit)⟩
    | _ => exact absurd closed still
  | privileged _ step =>
    -- behind `do` the session stands in privileged mode
    cases step with
    | closes _ user => cases user
    | _ => exact absurd closed still

variable {t : Timing} {n : Network} {p : Session} {line : String}

theorem meaning?_eq_some_iff : p.meaning? line = some m ↔ p.booting = false ∧
    p.mode.isKey = true ∧ line ≠ "" ∧ Command.meaning p.mode (Text.words line) = m := by
  simp [meaning?, and_assoc]

/-- What a command makes of the session in which it is typed, and what it tells. -/
theorem taking_took (meant : p.meaning? line = some m) :
    ∃ rs outputs, (p.enterLine line).Took m (p.taking t n line).session rs ∧
      (p.taking t n line).notices = ⟨p.uid, .command line p.mode⟩ ::
        (rs.map (fun r => ⟨p.uid, r⟩) ++ outputs) ∧
      ∀ x ∈ outputs, ∃ output, x.report = .output line output := by
  obtain ⟨booted, key, notBlank, rfl⟩ := meaning?_eq_some_iff.1 meant
  obtain ⟨rs, outputs, took, notices, printed⟩ := (Console.carryOut_took t
    ⟨n, p.enterLine line, []⟩ (Command.meaning p.mode (Text.words line))).upshot line
  rw [taking, if_neg (by simp [booted]), if_neg (by simp [key]), if_neg notBlank]
  exact ⟨rs, outputs, took, congrArg _ notices, printed⟩

/-- A line that is no command to the session leaves its mode, and leaves it open. -/
theorem taking_of_meaningless (h : p.meaning? line = none) :
    (p.taking t n line).session.mode = p.mode ∧
      (p.taking t n line).session.closed = p.closed := by
  have taken := p.takes t n line
  generalize p.taking t n line = u at taken
  cases taken with
  | booting _ => exact ⟨rfl, rfl⟩
  | lostMode _ _ =>
    dsimp only
    split
    · exact ⟨rfl, rfl⟩
    · exact ⟨rfl, rfl⟩
  | blank _ _ _ => exact ⟨rfl, rfl⟩
  | command booted key notBlank => simp [meaning?, booted, key, notBlank] at h

/-- A line leaves the mode of a session that was looked at, or it resolves to a command that leads
from there to the new one. -/
theorem taking_mode (t : Timing) (n : Network) (p : Session) (line : String) :
    (p.taking t n line).session.mode = p.mode ∨ p.booting = false ∧
      ∃ cmd args, Command.resolve p.mode (Text.words line) = some (cmd, args) ∧
        cmd ∈ Command.table p.mode ∧
        cmd.action.target? p.mode = some (p.taking t n line).session.mode := by
  cases hm : p.meaning? line with
  | none => exact Or.inl (taking_of_meaningless hm).1
  | some m =>
    obtain ⟨rs, outputs, took, -, -⟩ := taking_took (t := t) (n := n) hm
    obtain ⟨booted, -, -, rfl⟩ := meaning?_eq_some_iff.1 hm
    exact took.mode.imp id fun leads => ⟨booted, leads⟩

/-- In user mode `exit` closes the session. -/
theorem closed_of_exit {args : List String} (mode : p.mode = .user)
    (meant : p.meaning? line = some (.plain .exit args)) :
    (p.taking t n line).session.closed = true := by
  obtain ⟨booted, key, notBlank, exit⟩ := meaning?_eq_some_iff.1 meant
  have user : (p.enterLine line).mode = .user := mode
  rw [taking, if_neg (by simp [booted]), if_neg (by simp [key]), if_neg notBlank, exit]
  dsimp only
  rw [Console.carryOut, Action.run, Console.leave]
  dsimp only
  rw [user]
  rfl

/-- A line closes a session that is open exactly in user mode, if it resolves to `exit`. -/
theorem taking_closed_iff (hopen : p.closed = false) :
    (p.taking t n line).session.closed = true ↔ p.booting = false ∧ p.mode = .user ∧
      Command.resolvesTo .user (Text.words line) "exit" = true := by
  constructor
  · intro closed
    cases hm : p.meaning? line with
    | none => simp [(taking_of_meaningless hm).2, hopen] at closed
    | some m =>
      obtain ⟨rs, outputs, took, -, -⟩ := taking_took (t := t) (n := n) hm
      obtain ⟨booted, -, -, rfl⟩ := meaning?_eq_some_iff.1 hm
      exact ⟨booted, took.exit_of_closed hopen closed⟩
  · rintro ⟨booted, user, exit⟩
    obtain ⟨args, meant⟩ := Command.meaning_of_exit exit
    have notBlank : line ≠ "" := by
      rintro rfl
      cases meant
    have key : p.mode.isKey = true := by
      rw [user]
      rfl
    have means : p.meaning? line = some (.plain .exit args) :=
      meaning?_eq_some_iff.2 ⟨booted, key, notBlank, by rw [user, meant]⟩
    exact closed_of_exit user means

end Session

namespace Engine

variable {e : Engine} {id : Nat} {s s' : Session} {t : Turn} {text : String}

/-- The line is executed in the session, which stands in this mode when it has been polled, and
resolves to the command of this name. -/
def ResolvesTo (e : Engine) (id : Nat) (text : String) (m : Mode) (name : String) : Prop :=
  ∃ p, (e.poll id).session? id = some p ∧ p.closed = false ∧ p.booting = false ∧ p.mode = m ∧
    Command.resolvesTo m (Text.words (Text.trim text)) name = true

theorem polled_mode (s : Session) (now : Double) :
    (s.polled now).mode = s.mode ∨ (s.polled now).mode = .user := by
  have shown : (s.polled now).mode = (s.woken now).mode := rfl
  rw [shown, Session.woken]
  split
  · exact Or.inr rfl
  · exact Or.inl rfl

/-- A turn leaves the mode, or the device has booted, or a line led to the new mode from where it
found the session. -/
theorem Becomes.mode (hs : e.session? id = some s) (h : Becomes e id s t s') :
    s'.mode = s.mode ∨ s'.mode = .user ∨ ∃ text m cmd, t = .act (.line id text) ∧
      (m = s.mode ∨ m = .user) ∧ e.ResolvesTo id text m cmd.canonical ∧ cmd ∈ Command.table m ∧
      cmd.action.target? m = some s'.mode := by
  cases h with
  | line isOpen text =>
    obtain same | ⟨booted, cmd, args, found, mem, leads⟩ := Session.taking_mode
      ⟨e.clock, e.bootDelay⟩ e.network (s.polled e.clock) (Text.trim text)
    · exact (polled_mode s e.clock).imp same.trans fun user => Or.inl (same.trans user)
    · refine Or.inr (Or.inr ⟨text, _, cmd, rfl, polled_mode s e.clock, ?_, mem, leads⟩)
      exact ⟨_, session?_poll hs isOpen, Session.polled_closed.trans isOpen, booted, rfl,
        Command.resolvesTo_of_resolve found rfl⟩
  | poll isOpen => exact (polled_mode s e.clock).imp (fun same => same) Or.inl
  | _ => exact Or.inl rfl

/-- A line or a poll finds an open session as a poll leaves it. -/
theorem turn_poll_of_wakes (hs : e.session? id = some s) (hopen : s.closed = false)
    (wakes : t.wakes id = true) : (e.turn (.act (.poll id))).turn t = e.turn t := by
  cases t with
  | act a =>
    cases a with
    | line i text =>
      obtain rfl : i = id := of_decide_eq_true wakes
      exact congrArg Prod.snd (execute_poll hs hopen text)
    | poll i =>
      obtain rfl : i = id := of_decide_eq_true wakes
      exact poll_poll hs hopen
    | _ => cases wakes
  | _ => cases wakes

/-! ## Runs -/

/-- The session stands in one of the six modes. -/
theorem Becomes.mem_all (hs : e.session? id = some s) (h : Becomes e id s t s')
    (known : s.mode ∈ Mode.all) : s'.mode ∈ Mode.all := by
  obtain same | user | ⟨text, m, cmd, -, start, -, mem, leads⟩ := h.mode hs
  · rwa [same]
  · rw [user]
    decide
  · have from_known : m ∈ Mode.all := by
      rcases start with rfl | rfl
      · exact known
      · decide
    exact Mode.mem_all_of_reach from_known
      (Action.target?_mem_reach (Command.isOf_of_mem_table mem) leads)

/-- Over any turns, sessions stand in one of the six modes. -/
theorem mem_all_turns (h : e.Orderly)
    (known : ∀ id s, e.session? id = some s → s.mode ∈ Mode.all) (ts : List Turn) :
    ∀ id s, (e.turns ts).session? id = some s → s.mode ∈ Mode.all := by
  refine (turns_induction (P := fun e => e.Orderly ∧
    ∀ id s, e.session? id = some s → s.mode ∈ Mode.all) ⟨h, known⟩ ?_ ts).2
  rintro e t ⟨orderly, known⟩
  refine ⟨orderly_turn orderly t, fun id s' hs' => ?_⟩
  obtain ⟨s, hs, becomes⟩ | ⟨uid, d, -, -, -, rfl⟩ := session?_of_turn orderly hs'
  · exact becomes.mem_all hs (known id s hs)
  · exact List.mem_cons_self ..

/-- Among the turns is a line that resolves to `configure terminal`, in privileged mode. -/
def Configures (e : Engine) (id : Nat) (ts : List Turn) : Prop :=
  ∃ us text ws, ts = us ++ .act (.line id text) :: ws ∧
    (e.turns us).ResolvesTo id text .privileged "configure terminal"

/-- Among the turns is a line that resolves to `enable`, in user mode, and behind it one that
resolves to `configure terminal`, in privileged mode. -/
def Climbs (e : Engine) (id : Nat) (ts : List Turn) : Prop :=
  ∃ us text ws, ts = us ++ .act (.line id text) :: ws ∧
    (e.turns us).ResolvesTo id text .user "enable" ∧
    ((e.turns us).turn (.act (.line id text))).Configures id ws

theorem turns_append (e : Engine) (ts us : List Turn) :
    e.turns (ts ++ us) = (e.turns ts).turns us := List.foldl_append

theorem Configures.cons {ts : List Turn} (h : (e.turn t).Configures id ts) :
    e.Configures id (t :: ts) := by
  obtain ⟨us, text, ws, rfl, executes⟩ := h
  exact ⟨t :: us, text, ws, rfl, executes⟩

theorem Climbs.cons {ts : List Turn} (h : (e.turn t).Climbs id ts) : e.Climbs id (t :: ts) := by
  obtain ⟨us, text, ws, rfl, executes, configures⟩ := h
  exact ⟨t :: us, text, ws, rfl, executes, configures⟩

theorem Climbs.configures {ts : List Turn} (h : e.Climbs id ts) : e.Configures id ts := by
  obtain ⟨us, text, ws, rfl, -, vs, text', xs, rfl, executes⟩ := h
  refine ⟨us ++ .act (.line id text) :: vs, text', xs, by simp, ?_⟩
  rwa [turns_append]

/-- A session that comes to a mode of configuration has climbed there: from user mode by both lines,
from privileged mode by the second one.  The induction is on the turns, for both at once, because a
session may go down and up again. -/
theorem climbs_of_configuring (h : e.Orderly) (hs : e.session? id = some s) (ts : List Turn)
    (hs' : (e.turns ts).session? id = some s') (configuring : s'.mode.isExec = false) :
    (s.mode = .user → e.Climbs id ts) ∧ (s.mode = .privileged → e.Configures id ts) := by
  induction ts generalizing e s with
  | nil =>
    obtain rfl := Option.some.inj (hs.symm.trans hs')
    obtain ⟨user, privileged⟩ := Mode.ne_of_not_isExec configuring
    exact ⟨fun h => absurd h user, fun h => absurd h privileged⟩
  | cons t ts ih =>
    obtain ⟨x, hx, becomes⟩ := becomes hs (h.ended hs) t
    obtain ⟨ofUser, ofPrivileged⟩ := ih (orderly_turn h t) hx hs'
    obtain same | user | ⟨text, m, cmd, rfl, start, executes, mem, leads⟩ := becomes.mode hs
    · exact ⟨fun h => (ofUser (same.trans h)).cons, fun h => (ofPrivileged (same.trans h)).cons⟩
    · exact ⟨fun _ => (ofUser user).cons, fun _ => (ofUser user).configures.cons⟩
    · have fromUser : m = .user → e.Climbs id (.act (.line id text) :: ts) ∧
          (e.turn (.act (.line id text))).Configures id ts := by
        rintro rfl
        obtain ⟨enable, privileged⟩ :=
          Action.eq_enable_of_target? (Command.isOf_of_mem_table mem) leads
        rw [(Command.canonical_of_mem_table mem).1 enable] at executes
        have configures := ofPrivileged privileged
        exact ⟨⟨[], text, ts, rfl, executes, configures⟩, configures⟩
      constructor
      · intro user
        refine (fromUser ?_).1
        rcases start with rfl | rfl
        · exact user
        · rfl
      · intro privileged
        rcases start with rfl | rfl
        · rw [privileged] at executes mem leads
          obtain user | configure :=
            Action.eq_configure_of_target? (Command.isOf_of_mem_table mem) leads
          · exact (ofUser user).configures.cons
          · rw [(Command.canonical_of_mem_table mem).2.1 configure] at executes
            exact ⟨[], text, ts, rfl, executes⟩
        · exact (fromUser rfl).2.cons

/-! ## The ladder -/

/-- What the modes of the sessions of an engine allow. -/
structure Ladder (e : Engine) : Prop where
  /-- a session stands in one of the six modes -/
  known : ∀ id s, e.session? id = some s → s.mode ∈ Mode.all
  /-- a line that is not refused finds its session as a poll leaves it and takes it to a mode beside
  at most; and it closes the session exactly in user mode, if it resolves to `exit` -/
  line : ∀ id s text, e.session? id = some s → s.closed = false →
    ∃ p s', (e.poll id).session? id = some p ∧ (e.execute id text).2.session? id = some s' ∧
      (p.booting = false → s'.mode ∈ p.mode.reach ∧
        (s'.closed = true ↔ p.mode = .user ∧
          Command.resolvesTo .user (Text.words (Text.trim text)) "exit" = true))
  /-- a session opens in user mode -/
  opens : ∀ uid id e', e.openSession uid = .ok (id, e') →
    ∃ s, e'.session? id = some s ∧ s.mode = .user
  /-- between a moment in user mode and one in a mode of configuration, the session has executed a
  line that resolves to `enable`, and later one that resolves to `configure terminal` -/
  climbs : ∀ id s, e.session? id = some s → s.mode = .user → ∀ ts s',
    (e.turns ts).session? id = some s' → s'.mode.isExec = false → e.Climbs id ts
  /-- a poll ends a restart that is due in user mode; and from there, too, it climbs, if the restart
  ends with the next line or poll -/
  boots : ∀ id s, e.session? id = some s → s.closed = false → s.due e.clock = true →
    (∃ p, (e.poll id).session? id = some p ∧ p.booting = false ∧ p.mode = .user) ∧
      ∀ t ts s', t.wakes id = true → (e.turns (t :: ts)).session? id = some s' →
        s'.mode.isExec = false → (e.poll id).Climbs id (t :: ts)

theorem ladder_of_orderly (h : e.Orderly)
    (known : ∀ id s, e.session? id = some s → s.mode ∈ Mode.all) : e.Ladder where
  known := known
  line := by
    intro id s text hs hopen
    have isOpen : (s.polled e.clock).closed = false := Session.polled_closed.trans hopen
    have executed := congrArg Prod.snd (execute_of_open hs hopen text)
    dsimp only at executed
    refine ⟨_, _, session?_poll hs hopen, by rw [executed]; exact session?_settle hs _ _,
      fun booted => ⟨?_, ?_⟩⟩
    · obtain same | ⟨-, cmd, args, found, mem, leads⟩ := Session.taking_mode
        ⟨e.clock, e.bootDelay⟩ e.network (s.polled e.clock) (Text.trim text)
      · exact same ▸ Mode.mem_reach_self _
      · exact Action.target?_mem_reach (Command.isOf_of_mem_table mem) leads
    · refine (Session.taking_closed_iff isOpen).trans ?_
      simp only [booted, true_and]
  opens := by
    intro uid id e' opened
    obtain ⟨d, hd, opened⟩ := bind_eq_ok_iff.1 opened
    obtain ⟨rfl, rfl⟩ := Prod.mk.inj (pure_eq_ok_iff.1 opened)
    refine ⟨Session.start d.uid d.kind.name d.hostname, ?_, rfl⟩
    exact List.getElem?_concat_length
  climbs := fun id s hs user ts s' hs' configuring =>
    (climbs_of_configuring h hs ts hs' configuring).1 user
  boots := by
    intro id s hs hopen due
    have booted : (s.polled e.clock).booting = false ∧ (s.polled e.clock).mode = .user := by
      rw [Session.polled, Session.woken, if_pos due]
      exact ⟨rfl, rfl⟩
    refine ⟨⟨_, session?_poll hs hopen, booted⟩, fun t ts s' wakes hs' configuring => ?_⟩
    refine (climbs_of_configuring (orderly_turn h (.act (.poll id))) (session?_poll hs hopen)
      (t :: ts) ?_ configuring).1 booted.2
    rw [turns_cons] at hs' ⊢
    rwa [turn_poll_of_wakes hs hopen wakes]

/-- However turns follow one another from an engine without sessions, on sessions old and new, no
rung of the ladder is skipped. -/
theorem ladder_of_turns (h : e.sessions = []) (ts : List Turn) : (e.turns ts).Ladder := by
  have orderly : e.Orderly := orderly_of_no_session h
  refine ladder_of_orderly (orderly_turns orderly ts) (mem_all_turns orderly (fun id s hs => ?_) ts)
  rw [session?, h] at hs
  cases hs

/-- On a switch, `do` does not lead up.  The session climbs with abbreviated lines, and another one is
closed from user mode. -/
theorem ladder_of_turns_abbreviated :
    let e : Engine :=
      { network := Network.build [.addDevice { uid := "S1", kind := .text "SWITCH_L2" }]
        bootDelay := usualBootDelay }
    let ts : List Turn := [.act (.opens "S1")]
    let us : List Turn := [.act (.line 0 "do conf t"), .act (.line 0 " en "),
      .act (.line 0 "conf t")]
    e.sessions = [] ∧ (e.turns ts).Ladder ∧ (e.turns ts).Climbs 0 us ∧
      (((e.turns ts).turns us).session? 0).map Session.mode = some .config ∧
      ∃ s, ((e.turns ts).execute 0 "ex now").2.session? 0 = some s ∧ s.closed = true := by
  intro e ts us
  have ladder : (e.turns ts).Ladder := ladder_of_turns rfl ts
  have facts : ((e.turns ts).session? 0).map (fun s => (s.closed, s.mode)) = some (false, .user) ∧
      (((e.turns ts).poll 0).session? 0).map (fun s => (s.booting, s.mode)) =
        some (false, .user) ∧
      (((e.turns ts).turns us).session? 0).map Session.mode = some .config ∧
      Command.resolvesTo .user (Text.words (Text.trim "ex now")) "exit" = true := by
    decide +kernel
  obtain ⟨start, polled, later, exit⟩ := facts
  obtain ⟨s, hs, h⟩ := Option.map_eq_some_iff.1 start
  obtain ⟨hopen, user⟩ := Prod.mk.inj h
  obtain ⟨s', hs', config⟩ := Option.map_eq_some_iff.1 later
  have climbs := ladder.climbs 0 s hs user us s' hs' (by rw [config]; rfl)
  obtain ⟨p, x, hp, hx, one⟩ := ladder.line 0 s "ex now" hs hopen
  rw [hp] at polled
  obtain ⟨booted, mode⟩ := Prod.mk.inj (Option.some.inj polled)
  exact ⟨rfl, ladder, climbs, by rw [hs']; exact congrArg some config, x, hx,
    (one booted).2.2 ⟨mode, exit⟩⟩

end Engine

end NetLab
