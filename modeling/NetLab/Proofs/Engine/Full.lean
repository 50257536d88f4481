import NetLab.Proofs.Command.Full
import NetLab.Proofs.Console.Bare
import NetLab.Proofs.Console.Nested
import NetLab.Proofs.Engine.Independent

set_option autoImplicit false

/-!
# Lines that mean the same

What a session does with a line is settled by what the line means, but for what it keeps of the
line itself: its history, its screen, and what is told (`Session.taking_of_meaning`).  Only a line
that shows the history can print something else.  A line and the same command in full are such
lines (`Engine.execute_fullLine`).
-/

namespace NetLab

namespace Command

variable {m : Mode} {cmd : Command} {words words' args : List String}

theorem ne_nil_of_resolve (h : resolve m words = some (cmd, args)) : words ≠ [] := by
  rintro rfl
  rw [resolve_nil] at h
  cases h

/-- Words that resolve to a command with as many arguments as it takes mean its action. -/
theorem meaning_of_resolve_plain (h : resolve m words = some (cmd, args))
    (arity : cmd.checkArity args = none) (exec : cmd.action ≠ .exec) :
    meaning m words = .plain cmd.action args := by
  obtain ⟨w, ws, rfl⟩ := List.exists_cons_of_ne_nil (ne_nil_of_resolve h)
  rw [meaning, h]
  dsimp only
  rw [arity]
  dsimp only
  cases haction : cmd.action with
  | exec => exact absurd haction exec
  | _ => rfl

/-- The keywords of a command that no command before it knows mean its action. -/
theorem meaning_keywords {before behind : List Command} (h : table m = before ++ cmd :: behind)
    (missed : ∀ c ∈ before, Keyword.differ c.keywords cmd.keywords = true)
    (keywords : cmd.keywords = words) (args : List String) (arity : cmd.checkArity args = none)
    (exec : cmd.action ≠ .exec) : meaning m (words ++ args) = .plain cmd.action args := by
  rw [← keywords]
  exact meaning_of_resolve_plain (resolve_keywords h missed args) arity exec

/-- Words that resolve to the same mean the same.  The arguments of `do` are all the words behind
it, so these are the same too. -/
theorem meaning_of_resolve (h : resolve m words = some (cmd, args))
    (h' : resolve m words' = some (cmd, args)) : meaning m words' = meaning m words := by
  obtain ⟨w, ws, rfl⟩ := List.exists_cons_of_ne_nil (ne_nil_of_resolve h)
  obtain ⟨w', ws', rfl⟩ := List.exists_cons_of_ne_nil (ne_nil_of_resolve h')
  rw [meaning, meaning, h, h']
  dsimp only
  cases cmd.checkArity args with
  | some r => rfl
  | none =>
    by_cases exec : cmd.action = .exec
    · obtain ⟨_, behind⟩ := words_of_exec h exec
      obtain ⟨_, behind'⟩ := words_of_exec h' exec
      obtain rfl : ws = args := (List.cons.inj behind).2
      obtain rfl : ws' = ws := (List.cons.inj behind').2
      rfl
    · dsimp only
      cases haction : cmd.action with
      | exec => exact absurd haction exec
      | _ => rfl

end Command

/-! ## Upshots of lines that mean the same -/

/-- Two lines come to the same, but for what is kept of the lines themselves.  What is printed may
be excepted. -/
structure Upshot.Agrees (excepted : Prop) (u v : Upshot) : Prop where
  network : v.network = u.network
  standing : v.session.standing = u.session.standing
  wordless : v.reply.map Reply.wordless = u.reply.map Reply.wordless
  reply : ¬ excepted → v.reply = u.reply

theorem Upshot.agrees_refl (excepted : Prop) (u : Upshot) : u.Agrees excepted u :=
  ⟨rfl, rfl, rfl, fun _ => rfl⟩

/-- The history is shown, and nothing changes. -/
theorem Console.carryOut_showHistory {m : Command.Meaning} (h : m.action? = some .showHistory)
    (t : Timing) (c : Console) : c.carryOut t m = .done c.historyText c := by
  cases m with
  | refused r => cases h
  | plain a args =>
    obtain rfl : a = .showHistory := Option.some.inj h
    rfl
  | privileged a args =>
    obtain rfl : a = .showHistory := Option.some.inj h
    rfl

/-- What does not look at the screen or at the history is the same of sessions that differ in
these. -/
theorem Session.of_veiled {α : Type} {past : List String → List String} {s s' : Session}
    {f : Session → α} (hf : ∀ s, f (s.veiled past) = f s) (h : s'.veiled past = s.veiled past) :
    f s' = f s := by
  rw [← hf s', h, hf]

namespace Outcome

variable {past : List String → List String} {typed typed' : Session}
  {line line' : String}

/-- Outcomes that differ in what is on the screens and in the histories come to the same. -/
theorem agrees_of_veiled {o o' : Outcome} (h : o'.veiled past = o.veiled past)
    (excepted : Prop) : (o.upshot typed line).Agrees excepted (o'.upshot typed' line') := by
  have network : ∀ {c c' : Console}, c'.veiled past = c.veiled past → c'.network = c.network :=
    fun left => (congrArg Console.network left :)
  have session : ∀ {c c' : Console}, c'.veiled past = c.veiled past →
      c'.session.veiled past = c.session.veiled past :=
    fun left => (congrArg Console.session left :)
  have standing : ∀ {c c' : Console}, c'.veiled past = c.veiled past →
      c'.session.standing = c.session.standing :=
    fun left => Session.of_veiled (fun _ => rfl) (session left)
  have replied : ∀ {c c' : Console} (output : String) (ns ns' : List Notice),
      c'.veiled past = c.veiled past →
      Upshot.Agrees excepted ⟨.ok (c.session.reply output), c.network, c.session, ns⟩
        ⟨.ok (c'.session.reply output), c'.network, c'.session, ns'⟩ := by
    intro c c' output ns ns' left
    have replies : c'.session.reply output = c.session.reply output :=
      Session.of_veiled (f := (·.reply output)) (fun _ => rfl) (session left)
    exact ⟨network left, standing left, congrArg (fun x => Except.ok (Reply.wordless x)) replies,
      fun _ => congrArg Except.ok replies⟩
  cases o with
  | refused r c =>
    cases o' with
    | refused r' c' =>
      obtain ⟨rfl, left⟩ := Outcome.refused.inj h
      exact replied r'.message _ _ left
    | _ => cases h
  | failed f c =>
    cases o' with
    | failed f' c' =>
      obtain ⟨rfl, left⟩ := Outcome.failed.inj h
      exact ⟨network left, standing left, rfl, fun _ => rfl⟩
    | _ => cases h
  | done output c =>
    cases o' with
    | done output' c' =>
      obtain ⟨rfl, left⟩ := Outcome.done.inj h
      have closed : c'.session.closed = c.session.closed :=
        Session.of_veiled (fun _ => rfl) (session left)
      rw [upshot, upshot, closed]
      split
      · exact ⟨network left, standing left, rfl, fun _ => rfl⟩
      · exact replied output' _ _ left
    | _ => cases h

end Outcome

namespace Session

variable {t : Timing} {n : Network} {p s : Session} {line line' : String}

/-- Whatever two lines mean, if they mean the same then they come to the same. -/
theorem agrees_of_meaning (t : Timing) (n : Network) (p : Session) (line line' : String)
    (meant : Command.Meaning) :
    (Outcome.upshot (p.enterLine line) line
      (({ network := n, session := p.enterLine line } : Console).carryOut t meant)).Agrees
        (meant.action? = some .showHistory)
        (Outcome.upshot (p.enterLine line') line'
          (({ network := n, session := p.enterLine line' } : Console).carryOut t meant)) := by
  by_cases shows : meant.action? = some .showHistory
  · rw [Console.carryOut_showHistory shows, Console.carryOut_showHistory shows]
    have closed : (p.enterLine line').closed = (p.enterLine line).closed := rfl
    rw [Outcome.upshot, Outcome.upshot]
    dsimp only
    rw [closed]
    split
    · exact ⟨rfl, rfl, rfl, fun other => absurd shows other⟩
    · exact ⟨rfl, rfl, rfl, fun other => absurd shows other⟩
  · -- with no history to look at, there is nothing to tell the two sessions apart
    let forget : List String → List String := fun _ => []
    have consoles : Console.veiled forget ⟨n, p.enterLine line', []⟩ =
        Console.veiled forget ⟨n, p.enterLine line, []⟩ := rfl
    have same : (Console.carryOut t ⟨n, p.enterLine line', []⟩ meant).veiled forget =
        (Console.carryOut t ⟨n, p.enterLine line, []⟩ meant).veiled forget := by
      rw [← Console.carryOut_veiled shows, ← Console.carryOut_veiled shows, consoles]
    exact Outcome.agrees_of_veiled same _

/-- A session that was looked at does the same with two lines that mean the same in its mode. -/
theorem taking_of_meaning (notBlank : line ≠ "") (notBlank' : line' ≠ "")
    (same : Command.meaning p.mode (Text.words line') = Command.meaning p.mode (Text.words line)) :
    (p.taking t n line).Agrees (p.action? line = some .showHistory) (p.taking t n line') := by
  rw [taking, taking]
  split
  · exact Upshot.agrees_refl _ _
  · next booted =>
    split
    · exact ⟨rfl, rfl, rfl, fun _ => rfl⟩
    · next key =>
      have meant : p.action? line = (Command.meaning p.mode (Text.words line)).action? := by
        simp only [action?, meaning?]
        rw [if_neg (by simp [booted, key, notBlank]), Option.bind_some]
      rw [same, meant]
      have agrees := agrees_of_meaning t n p line line'
        (Command.meaning p.mode (Text.words line))
      exact ⟨agrees.network, agrees.standing, agrees.wordless, agrees.reply⟩

end Session

/-! ## Lines given to an engine -/

namespace Engine

variable {e : Engine} {id : Nat} {s : Session} {line line' : String}

/-- The one line may be given for the other: the networks that they leave are the same, and where
the sessions stand, and so is the answer.  What is printed may be something else only where the line
shows the history, for the two lines stand there as they were typed. -/
structure Interchangeable (e : Engine) (id : Nat) (line line' : String) : Prop where
  network : (e.execute id line').2.network = (e.execute id line).2.network
  standings : (e.execute id line').2.standings = (e.execute id line).2.standings
  others : ∀ k, k ≠ id →
    (e.execute id line').2.session? k = (e.execute id line).2.session? k
  wordless : (e.execute id line').1.map Reply.wordless = (e.execute id line).1.map Reply.wordless
  answer : e.action? id line ≠ some .showHistory →
    (e.execute id line').1 = (e.execute id line).1

theorem standings_settle (e : Engine) (id : Nat) (line : String) (u : Upshot) :
    (e.settle id line u).standings = e.standings.set id u.session.standing :=
  List.map_set

/-- Lines that mean the same to the session that takes them may be given for one another. -/
theorem interchangeable_of_meaning (notBlank : Text.trim line ≠ "")
    (notBlank' : Text.trim line' ≠ "")
    (same : ∀ s, (e.poll id).session? id = some s →
      Command.meaning s.mode (Text.words line') = Command.meaning s.mode (Text.words line)) :
    e.Interchangeable id line line' := by
  obtain hall | ⟨s, hs, hopen⟩ := closed_or_open e id
  · have answer : ∀ text, e.execute id text = (.ok { closed := true }, e) := fun text =>
      execute_of_closed hall
    constructor
    all_goals
      intros
      rw [answer line, answer line']
  · have meant := same _ (session?_poll hs hopen)
    rw [← Text.words_trim line, ← Text.words_trim line'] at meant
    have agrees := Session.taking_of_meaning (t := ⟨e.clock, e.bootDelay⟩) (n := e.network)
      notBlank notBlank' meant
    have answer := execute_of_open hs hopen line
    have answer' := execute_of_open hs hopen line'
    refine ⟨?_, ?_, fun k other => ?_, ?_, fun notShown => ?_⟩
    · rw [answer, answer']
      exact agrees.network
    · rw [answer, answer', standings_settle, standings_settle]
      exact congrArg _ agrees.standing
    · rw [answer, answer', session?_settle_of_ne other, session?_settle_of_ne other]
    · rw [answer, answer']
      exact agrees.wordless
    · rw [action?_of_open hs hopen] at notShown
      rw [answer, answer']
      exact agrees.reply notShown

/-- The command that a line means, written out in full with the same arguments, means the same in
every mode: it resolves to this command with these arguments, and where a session in this mode takes
the line, the one may be given for the other. -/
theorem execute_fullLine {m : Mode} {cmd : Command} {args : List String}
    (found : Command.resolve m (Text.words line) = some (cmd, args)) :
    Command.resolve m (Text.words (cmd.fullLine args)) = some (cmd, args) ∧
      ∀ (e : Engine) (id : Nat), (∀ s, (e.poll id).session? id = some s → s.mode = m) →
        e.Interchangeable id line (cmd.fullLine args) := by
  have full := Command.resolve_fullLine found
  have notBlank : ∀ {line : String}, Command.resolve m (Text.words line) = some (cmd, args) →
      Text.trim line ≠ "" := by
    intro line resolves blank
    rw [← Text.words_trim, blank] at resolves
    exact Command.ne_nil_of_resolve resolves rfl
  refine ⟨full, fun e id mode => ?_⟩
  refine interchangeable_of_meaning (notBlank found) (notBlank full) fun s hs => ?_
  rw [mode s hs]
  exact Command.meaning_of_resolve found full

/-- `sH VL` stands for `show vlan` in privileged mode, though `show vlan brief` stands before it in
the table. -/
theorem execute_fullLine_show_vlan :
    let e : Engine := Engine.turns
      { network := Network.build [.addDevice { uid := "S1", kind := .text "SWITCH_L2" }]
        bootDelay := usualBootDelay }
      [.act (.opens "S1"), .act (.line 0 "enable")]
    ∃ cmd, Command.resolve .privileged (Text.words "  sH VL ") = some (cmd, []) ∧
      cmd.fullLine [] = "show vlan" ∧ e.Interchangeable 0 "  sH VL " "show vlan" ∧
      (e.execute 0 "show vlan").1.map (fun r => (r.prompt, r.output != "")) =
        .ok ("S1#", true) := by
  intro e
  let cmd : Command := { canonical := "show vlan", action := .showVlan,
                         help := "Show VLAN information", listed := false }
  have found : Command.resolve .privileged (Text.words "  sH VL ") = some (cmd, []) := by
    decide +kernel
  have inFull : cmd.fullLine [] = "show vlan" := by decide +kernel
  have privileged : ((e.poll 0).session? 0).map (·.mode) = some .privileged := by decide +kernel
  have shown : (e.execute 0 "show vlan").1.map (fun r => (r.prompt, r.output != "")) =
      .ok ("S1#", true) := by decide +kernel
  have mode : ∀ s, (e.poll 0).session? 0 = some s → s.mode = .privileged := by
    intro s hs
    rw [hs] at privileged
    exact Option.some.inj privileged
  have same := (execute_fullLine found).2 e 0 mode
  rw [inFull] at same
  exact ⟨cmd, found, inFull, same, shown⟩

end Engine

end NetLab
