import NetLab.Proofs.Engine.Twin
import NetLab.Proofs.Service.Script

set_option autoImplicit false

/-!
# Runs of commands

A run of commands that does not close its session can be resumed: executing more commands is
executing them after it, from where it left the engine.  And on twin engines the same commands come
to the same, each run by a clock of its own, but for the histories that are printed.
-/

namespace NetLab

/-- A result of a command without its output. -/
def Value.withoutOutput : Value → Value
  | .object fs => .object (fs.filter fun f => f.1 ≠ "output")
  | v => v

/-- The engine is ready for the command at place `k`: it is tidy, boots that are under way are due,
and the session of a number is there, on a device. -/
structure Engine.Ready (clock : Nat → Double) (id : Nat) (uid : String) (k : Nat) (e : Engine) :
    Prop where
  tidy : e.Tidy
  punctual : e.Punctual clock id k
  device : e.standings[id]?.map Standing.uid = some uid

namespace Engine.Ready

variable {clock : Nat → Double} {id k : Nat} {uid : String} {e : Engine}

theorem at_clock (h : e.Ready clock id uid k) (now : Double) :
    ({ e with clock := now } : Engine).Ready clock id uid k :=
  ⟨h.tidy.at_clock now, h.punctual.at_clock now, h.device⟩

/-- After a command, whatever it was, the engine is ready for the next one. -/
theorem next (h : e.Ready clock id uid k) (steady : Steady clock) (c : Value) :
    (({ e with clock := clock k } : Engine).executeValue id c).2.Ready clock id uid (k + 1) where
  tidy := (h.tidy.at_clock _).executeValue c
  punctual := (h.punctual.at_clock _).executeValue rfl steady c
  device := (uid_executeValue _ id c).trans h.device

end Engine.Ready

/-- A reply says that the session is closed only if it is. -/
theorem Engine.closed_of_executeValue {e next : Engine} {id : Nat} {line : Value} {r : Reply}
    (h : e.executeValue id line = (.ok r, next)) (closed : r.closed = true) :
    (next.session? id).all (·.closed) = true := by
  have executed : ∀ text, e.execute id text = (.ok r, next) →
      (next.session? id).all (·.closed) = true := by
    intro text h
    have replied : (e.execute id text).1 = .ok r := by rw [h]
    have shut := closed_of_execute replied closed
    rwa [h] at shut
  rw [executeValue] at h
  split at h
  · exact executed _ h
  · split at h
    · cases h
    · exact executed _ h

namespace Service

variable {clock clock' : Nat → Double} {id k k' : Nat} {uid uid' : String}
  {e e' last next : Engine} {c : Value} {cs : List Value} {r : Reply} {rs : List CommandResult}

/-! ## Command by command -/

/-- What more commands come to, behind the results of those before them. -/
def resume (before : List CommandResult) (x : Except Fault (List CommandResult) × Engine) :
    Except Fault (List CommandResult) × Engine := (x.1.map (before ++ ·), x.2)

theorem runCommands_of_error {f : Fault}
    (h : ({ e with clock := clock k } : Engine).executeValue id c = (.error f, next)) :
    runCommands clock id (c :: cs) k e = (.error f, next) := by
  rw [runCommands, h]

theorem runCommands_of_closed
    (h : ({ e with clock := clock k } : Engine).executeValue id c = (.ok r, next))
    (closed : r.closed = true) : runCommands clock id (c :: cs) k e =
      (.ok [⟨c, r.output, r.refused⟩], { next with clock := clock (k + 1) }) := by
  rw [runCommands, h]
  dsimp only
  rw [if_pos closed]

theorem runCommands_of_open
    (h : ({ e with clock := clock k } : Engine).executeValue id c = (.ok r, next))
    (hopen : r.closed = false) : runCommands clock id (c :: cs) k e =
      resume [⟨c, r.output, r.refused⟩] (runCommands clock id cs (k + 1) next) := by
  rw [runCommands, h]
  dsimp only
  rw [hopen, if_neg Bool.false_ne_true]
  cases runCommands clock id cs (k + 1) next with
  | mk out e =>
    cases out with
    | error f => rfl
    | ok results => rfl

/-- The time is set before every command, and at the end. -/
theorem runCommands_at_clock (clock : Nat → Double) (id : Nat) (cs : List Value) (k : Nat)
    (e : Engine) (now : Double) :
    runCommands clock id cs k { e with clock := now } = runCommands clock id cs k e := by
  cases cs <;> rfl

/-! ## Runs that do not close their session -/

/-- Every command was executed, and none closed the session. -/
inductive Ran (clock : Nat → Double) (id : Nat) :
    List Value → Nat → Engine → List CommandResult → Engine → Prop where
  | nil {k : Nat} {e : Engine} : Ran clock id [] k e [] { e with clock := clock k }
  | cons {c : Value} {cs : List Value} {k : Nat} {e next last : Engine} {r : Reply}
      {rs : List CommandResult}
      (step : ({ e with clock := clock k } : Engine).executeValue id c = (.ok r, next))
      (stays : r.closed = false) (rest : Ran clock id cs (k + 1) next rs last) :
      Ran clock id (c :: cs) k e (⟨c, r.output, r.refused⟩ :: rs) last

theorem ran_of_open (h : runCommands clock id cs k e = (.ok rs, last))
    (hopen : (last.session? id).all (·.closed) = false) : Ran clock id cs k e rs last := by
  induction cs generalizing k e rs with
  | nil =>
    obtain ⟨hrs, rfl⟩ := Prod.mk.inj h
    obtain rfl := Except.ok.inj hrs
    exact .nil
  | cons c cs ih =>
    cases hstep : ({ e with clock := clock k } : Engine).executeValue id c with
    | mk out next =>
      cases out with
      | error f =>
        rw [runCommands_of_error hstep] at h
        cases h
      | ok r =>
        cases stays : r.closed with
        | true =>
          rw [runCommands_of_closed hstep stays] at h
          obtain ⟨-, rfl⟩ := Prod.mk.inj h
          have closed : (next.session? id).all (·.closed) = true :=
            Engine.closed_of_executeValue hstep stays
          cases closed.symm.trans hopen
        | false =>
          rw [runCommands_of_open hstep stays, resume] at h
          obtain ⟨hrs, hlast⟩ := Prod.mk.inj h
          obtain ⟨rest, hrest, rfl⟩ := map_eq_ok_iff.1 hrs
          exact .cons hstep stays (ih (Prod.ext hrest hlast))

namespace Ran

theorem length (h : Ran clock id cs k e rs last) : rs.length = cs.length := by
  induction h with
  | nil => rfl
  | cons _ _ _ ih => rw [List.length_cons, List.length_cons, ih]

/-- At the end the engine is ready for one more command. -/
theorem ready (h : Ran clock id cs k e rs last) (steady : Steady clock)
    (start : e.Ready clock id uid k) : last.Ready clock id uid (k + cs.length) := by
  induction h with
  | nil => exact start.at_clock _
  | @cons c cs k e next last r rs step _ _ ih =>
    have ready : next.Ready clock id uid (k + 1) := by
      have next := start.next steady c
      rwa [step] at next
    rw [List.length_cons, Nat.add_comm cs.length, ← Nat.add_assoc]
    exact ih ready

/-- More commands are executed from where a run left the engine. -/
theorem runCommands_append (h : Ran clock id cs k e rs last) (rest : List Value) :
    runCommands clock id (cs ++ rest) k e =
      resume rs (runCommands clock id rest (k + cs.length) last) := by
  induction h with
  | @nil k e =>
    change runCommands clock id rest k e =
      resume [] (runCommands clock id rest k { e with clock := clock k })
    rw [runCommands_at_clock clock id rest k e (clock k)]
    cases runCommands clock id rest k e with
    | mk out e => cases out <;> rfl
  | @cons c cs k e next last r rs step stays _ ih =>
    rw [List.cons_append, runCommands_of_open step stays, ih, List.length_cons,
      Nat.add_comm cs.length, ← Nat.add_assoc]
    cases runCommands clock id rest (k + 1 + cs.length) last with
    | mk out e => cases out <;> rfl

end Ran

/-! ## Histories that are printed -/

/-- Which commands of a run print the history of the session. -/
def recalled (clock : Nat → Double) (id : Nat) : List Value → Nat → Engine → List Bool
  | [], _, _ => []
  | c :: cs, k, e =>
    let e := { e with clock := clock k }
    e.recalls id c :: recalled clock id cs (k + 1) (e.executeValue id c).2

theorem length_recalled (clock : Nat → Double) (id : Nat) (cs : List Value) (k : Nat)
    (e : Engine) : (recalled clock id cs k e).length = cs.length := by
  induction cs generalizing k e with
  | nil => rfl
  | cons c cs ih => rw [recalled, List.length_cons, List.length_cons, ih]

theorem recalled_at_clock (clock : Nat → Double) (id : Nat) (cs : List Value) (k : Nat)
    (e : Engine) (now : Double) :
    recalled clock id cs k { e with clock := now } = recalled clock id cs k e := by
  cases cs <;> rfl

theorem Ran.recalled_append (h : Ran clock id cs k e rs last) (rest : List Value) :
    recalled clock id (cs ++ rest) k e =
      recalled clock id cs k e ++ recalled clock id rest (k + cs.length) last := by
  induction h with
  | @nil k e => exact (recalled_at_clock clock id rest k e (clock k)).symm
  | @cons c cs k e next last r rs step _ _ ih =>
    rw [List.cons_append, recalled, recalled, step, ih, List.cons_append, List.length_cons,
      Nat.add_comm cs.length, ← Nat.add_assoc]

/-! ## Results as documents -/

/-- A result of a command as it stands in an answer. -/
def resultDocument (c : CommandResult) : Value :=
  .record [("command", c.command), ("output", .text c.output), ("refused", .bool c.refused)]

theorem resultDocument_eq (c : CommandResult) : resultDocument c =
    .object [("command", c.command), ("output", .text c.output), ("refused", .bool c.refused)] := by
  have output : ¬ "output" < "command" := by decide
  have refused : ¬ "refused" < "command" ∧ ¬ "refused" < "output" := by decide
  simp only [resultDocument, Value.record, Index.ofList, List.foldl_cons, List.foldl_nil, Index.put,
    Index.write, Index.empty, String.reduceEq, if_false, output, refused]

theorem withoutOutput_resultDocument (c : CommandResult) : (resultDocument c).withoutOutput =
    .object [("command", c.command), ("refused", .bool c.refused)] := by
  rw [resultDocument_eq]
  rfl

/-- Results, some of them without their output. -/
def redact : List Bool → List Value → List Value
  | m :: ms, v :: vs => (if m then v.withoutOutput else v) :: redact ms vs
  | _, vs => vs

theorem redact_nil (ms : List Bool) : redact ms [] = [] := by
  cases ms <;> rfl

theorem redact_append {ms ms' : List Bool} {vs vs' : List Value} (h : ms.length = vs.length) :
    redact (ms ++ ms') (vs ++ vs') = redact ms vs ++ redact ms' vs' := by
  induction ms generalizing vs with
  | nil =>
    obtain rfl := List.length_eq_zero_iff.1 h.symm
    cases ms' <;> cases vs' <;> rfl
  | cons m ms ih =>
    cases vs with
    | nil => cases h
    | cons v vs =>
      rw [List.cons_append, List.cons_append, redact, redact, ih (Nat.succ.inj h), List.cons_append]

/-- Results that are the same but for an output that is left out, before results that are the same
but for what is left out. -/
theorem redact_cons_congr {m : Bool} {ms ms' : List Bool} {a a' : CommandResult}
    {vs vs' : List Value} (command : a'.command = a.command) (refused : a'.refused = a.refused)
    (output : ¬ m = true → a'.output = a.output) (rest : redact ms' vs' = redact ms vs) :
    redact (m :: ms') (resultDocument a' :: vs') = redact (m :: ms) (resultDocument a :: vs) := by
  rw [redact, redact, rest]
  cases m with
  | true =>
    rw [if_pos rfl, if_pos rfl, withoutOutput_resultDocument, withoutOutput_resultDocument, command,
      refused]
  | false =>
    rw [if_neg Bool.false_ne_true, if_neg Bool.false_ne_true, resultDocument, resultDocument,
      command, refused, output Bool.false_ne_true]

/-! ## Runs on twins -/

/-- Two runs came to the same but for the outputs that are left out, and left twins, each settled at
its own time; or they ended in the same fault. -/
inductive Agree (clock clock' : Nat → Double) (id : Nat) (uid uid' : String)
    (ms ms' : List Bool) : Except Fault (List CommandResult) × Engine →
      Except Fault (List CommandResult) × Engine → Prop where
  | ok {rs rs' : List CommandResult} {last last' : Engine} {k k' : Nat}
      (results : redact ms' (rs'.map resultDocument) = redact ms (rs.map resultDocument))
      (twin : last.Twin id last')
      (ready : last.Ready clock id uid k) (now : last.clock = clock k)
      (ready' : last'.Ready clock' id uid' k') (now' : last'.clock = clock' k') :
      Agree clock clock' id uid uid' ms ms' (.ok rs, last) (.ok rs', last')
  | error (f : Fault) (last last' : Engine) :
      Agree clock clock' id uid uid' ms ms' (.error f, last) (.error f, last')

theorem agree_runCommands (steady : Steady clock) (steady' : Steady clock') (cs : List Value)
    (twin : e.Twin id e') (ready : e.Ready clock id uid k) (ready' : e'.Ready clock' id uid' k') :
    Agree clock clock' id uid uid' (recalled clock id cs k e) (recalled clock' id cs k' e')
      (runCommands clock id cs k e) (runCommands clock' id cs k' e') := by
  induction cs generalizing k k' e e' with
  | nil =>
    exact .ok rfl ⟨twin.network, twin.standing⟩ (ready.at_clock _) rfl (ready'.at_clock _) rfl
  | cons c cs ih =>
    have start : ({ e with clock := clock k } : Engine).Twin id { e' with clock := clock' k' } :=
      ⟨twin.network, twin.standing⟩
    obtain ⟨recalls, answers⟩ := start.executeValue (ready.at_clock _).tidy
      (ready.at_clock _).punctual rfl (ready'.at_clock _).punctual rfl c
    have next := ready.next steady c
    have next' := ready'.next steady' c
    rw [recalled, recalled, recalls]
    generalize ({ e with clock := clock k } : Engine).recalls id c = m at answers
    generalize hx : ({ e with clock := clock k } : Engine).executeValue id c = x at answers next
    generalize hy : ({ e' with clock := clock' k' } : Engine).executeValue id c = y at answers next'
    cases answers with
    | failed f _ _ =>
      rw [runCommands_of_error hx, runCommands_of_error hy]
      exact .error f _ _
    | @replied r r' after after' reply left =>
      cases closed : r.closed with
      | true =>
        rw [runCommands_of_closed hx closed,
          runCommands_of_closed hy (reply.closed.trans closed)]
        refine .ok ?_ ⟨left.network, left.standing⟩ (next.at_clock _) rfl (next'.at_clock _) rfl
        refine redact_cons_congr rfl reply.refused reply.output ?_
        rw [List.map_nil, redact_nil, redact_nil]
      | false =>
        rw [runCommands_of_open hx closed, runCommands_of_open hy (reply.closed.trans closed)]
        have rest := ih left next next'
        generalize runCommands clock id cs (k + 1) after = x at rest
        generalize runCommands clock' id cs (k' + 1) after' = y at rest
        cases rest with
        | error f _ _ => exact .error f _ _
        | ok results twin ready now ready' now' =>
          refine .ok ?_ twin ready now ready' now'
          exact redact_cons_congr rfl reply.refused reply.output results

end Service

end NetLab
