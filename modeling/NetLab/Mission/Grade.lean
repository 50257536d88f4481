import NetLab.Mission.Catalogue

set_option autoImplicit false

/-!
# Grading

A step is graded against the network as it is; what earlier steps asked for is not looked at.
`progress` is the number of the first step that does not pass.
-/

namespace NetLab.Mission

/-- How a step was graded. -/
structure Grade where
  mission : Int
  step : Int
  passed : Bool
  message : String
  /-- the step to try next; none once the mission is finished -/
  nextStep : Option Int
  complete : Bool
  deriving DecidableEq, Repr, Inhabited

/-- What is said of a step that did not pass. -/
def failedMessage : String := "Verification Failed. Check the requirements!"

/-- The grade of a step that did not pass. -/
def failedGrade (m : Mission) (step : Nat) : Grade :=
  { mission := m.id, step, passed := false, message := failedMessage, nextStep := some step,
    complete := false }

/-- The grade of a step that passed: the next step follows, or the mission is complete. -/
def passedGrade (m : Mission) (step : Nat) : Grade :=
  match m.steps[step + 1]? with
  | some next =>
    { mission := m.id, step, passed := true, message := "Step passed. Next: " ++ next.title,
      nextStep := some (step + 1 : Nat), complete := false }
  | none =>
    { mission := m.id, step, passed := true, message := m.title ++ " complete.",
      nextStep := none, complete := true }

/-- The step of a number, counted from 0. -/
def step? (m : Mission) (step : Int) : Option (Nat × Step) :=
  if step < 0 then none else (m.steps[step.toNat]?).map fun s => (step.toNat, s)

/-- The number of a step that a value gives: truth values count as 1 and 0.  A double counts no
steps, even if it is a whole number; one out of the range of the steps is named. -/
def readStep (m : Mission) : Value → Except Fault Int
  | .int n => .ok n
  | .bool b => .ok (if b then 1 else 0)
  | .float d =>
    let inRange := Double.zero.le d && !(Double.ofInt m.steps.length).le d
    .error (if inRange then .wrongKind else .noStep m.id d.display)
  | _ => .error .wrongKind

/-- Grade a step of a mission. -/
def verify (m : Mission) (n : Network) (step : Int) : Except Fault Grade := do
  match m.step? step with
  | none => throw (.noStep m.id (toString step))
  | some (k, s) => return if ← s.check n then m.passedGrade k else m.failedGrade k

/-- The number of steps that pass before the first that does not. -/
def passing (n : Network) : List Step → Except Fault Nat
  | [] => .ok 0
  | s :: rest => do
    if ← s.check n then return (← passing n rest) + 1
    return 0

/-- The number of the first step that does not pass, or the number of steps. -/
def progress (m : Mission) (n : Network) : Except Fault Nat := passing n m.steps

end NetLab.Mission
