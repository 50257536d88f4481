import NetLab.Document.Order
import NetLab.Engine.Basic

set_option autoImplicit false

/-!
# Hints

A line that prints an error puts a question to the advisor, who answers at some later moment.  A
tip that arrives while its session is open waits there until the session is looked at next, and
is shown then.  What arrives later is lost.
-/

namespace NetLab.Engine

/-- What stands before a tip on the screen. -/
def hintMark : String := "[AI Tip]: "

/-- Ask the advisor, if there is one. -/
def ask (e : Engine) (q : Question) : Engine :=
  if e.advised then { e with pending := e.pending ++ [q] } else e

/-- Take the advisor's answer to a question. -/
def receive (e : Engine) (q : Question) (a : Advice) : Engine :=
  match e.session? q.session with
  | none => e
  | some s =>
    match a with
    | .nothing => e
    | .failed error => e.tell ⟨s.uid, .hintFailed q.line error⟩
    | .tip text =>
      let tip := Text.trim text
      if tip = "" || s.closed then e
      else e.setSession q.session { s with hints := s.hints ++ [tip] }

/-- The advisor answers the pending question at a place. -/
def answer (e : Engine) (k : Nat) (a : Advice) : Engine :=
  match e.pending[k]? with
  | some q => { e with pending := e.pending.eraseIdx k }.receive q a
  | none => e

/-- Show the hints that wait in a session.  The result is the lines that are shown; a closed
session shows none and drops them. -/
def drain (e : Engine) (id : Nat) : List String × Engine :=
  match e.session? id with
  | none => ([], e)
  | some s =>
    if s.closed then ([], e.setSession id { s with hints := [] })
    else
      let lines := s.hints.map (hintMark ++ ·)
      (lines, (e.setSession id ({ s with hints := [] }.print lines)).tellAll
        (s.hints.map fun t => ⟨s.uid, .hint t⟩))

/-- Show the hints that wait in a session, or wait for the first.  A closed session is not waited
for. -/
def drainWithin (e : Engine) (id : Nat) (wait : Double) : Except Fault (List String) × Engine :=
  if wait.isNegative && !((e.session? id).all (·.closed)) then (.error .negativeWait, e)
  else
    let (lines, e) := e.drain id
    (.ok lines, e)

/-- Show the hints that wait in a session, or wait for the first as long as a value says; null says
not to wait.  A closed session is not waited for, whatever the value is. -/
def drainFor (e : Engine) (id : Nat) (wait : Value) : Except Fault (List String) × Engine :=
  let now := let (lines, e) := e.drain id; (.ok lines, e)
  match wait with
  | .null => now
  | wait =>
    match wait.seconds with
    | .ok seconds => e.drainWithin id seconds
    | .error f =>
      if (e.session? id).all (·.closed) then now
      else (.error (if wait.isBefore (.int 0) then .negativeWait else f), e)

/-- Finish a boot that is due, and show the hints that wait. -/
def poll (e : Engine) (id : Nat) : Engine :=
  match e.session? id with
  | none => e
  | some s =>
    let due := s.deadline.any (·.le e.clock)
    ((if due then e.setSession id s.boot else e).drain id).2

end NetLab.Engine
