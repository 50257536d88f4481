import NetLab.Command.Refusal
import NetLab.Notice
import NetLab.Session

set_option autoImplicit false

/-!
# Consoles

A console is what a command can reach: the network, its own session, and the notices that it
sends.  A command is carried out, or refused, or fails.  Whichever it is, what the command has done
by then stays: nothing is rolled back.
-/

namespace NetLab

/-- What a command can reach. -/
structure Console where
  network : Network
  session : Session
  /-- the notices that were sent, oldest first -/
  notices : List Notice := []
  deriving DecidableEq, Repr, Inhabited

/-- What became of a command. -/
inductive Outcome where
  /-- it was carried out and printed this -/
  | done (output : String) (next : Console)
  /-- it was not carried out, or not to its end -/
  | refused (r : Refusal) (next : Console)
  /-- it failed -/
  | failed (f : Fault) (next : Console)
  deriving DecidableEq, Repr, Inhabited

namespace Console

/-- Change the session. -/
def onSession (c : Console) (f : Session → Session) : Console := { c with session := f c.session }

/-- Send a notice. -/
def send (c : Console) (r : Report) : Console :=
  { c with notices := c.notices ++ [⟨c.session.uid, r⟩] }

/-- Nothing is printed. -/
def quiet (c : Console) : Outcome := .done "" c

/-- Go on with the result of an operation that may fail. -/
def attempt {α : Type} (c : Console) (x : Except Fault α) (next : α → Outcome) : Outcome :=
  match x with
  | .ok a => next a
  | .error f => .failed f c

/-- Carry on with a changed network. -/
def withNetwork (c : Console) (n : Network) : Console := { c with network := n }

end Console

end NetLab
