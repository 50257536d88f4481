import NetLab.Command.Mode
import NetLab.Document.Value

set_option autoImplicit false

/-!
# Sessions

A session is one terminal on one device: where in the command modes it stands, what was typed,
what was shown, and whether the device is still booting.
-/

namespace NetLab

/-- Where a session stands: its mode, and the interface, VLAN or line that the mode is about.
Commands put a text or a whole number there, a direct edit may put anything; null stands for
none. -/
structure Place where
  mode : Mode := .user
  interface : Value := .null
  vlan : Value := .null
  line : Value := .null
  deriving DecidableEq, Repr, Inhabited

/-- A terminal on a device. -/
structure Session where
  uid : String
  hostname : Value
  place : Place := {}
  /-- the lines that were executed, oldest first -/
  history : List String := []
  /-- how far back in the history recall has gone; 0 is the newest line -/
  cursor : Option Nat := none
  /-- the lines on the screen, oldest first -/
  transcript : List String := []
  closed : Bool := false
  /-- when the device will have booted -/
  deadline : Option Double := none
  /-- hints that arrived and are not shown yet, oldest first -/
  hints : List String := []
  deriving DecidableEq, Repr, Inhabited

namespace Session

/-- What the screen says when a device has booted. -/
def bootBanner : String := "Press RETURN to get started."

/-- A session as it opens on a device of a kind. -/
def start (uid kind : String) (hostname : Value) : Session :=
  { uid, hostname,
    transcript := ["NetOS (C) 2024 Systems, Inc.", "Hardware: " ++ kind, bootBanner] }

/-- The mode of the session. -/
def mode (s : Session) : Mode := s.place.mode

/-- The device is booting. -/
def booting (s : Session) : Bool := s.deadline.isSome

/-- The prompt. -/
def prompt (s : Session) : String := s.hostname.display ++ s.mode.promptMark

/-- The prompt, if the mode can be looked up. -/
def prompt? (s : Session) : Except Fault String :=
  if s.mode.isKey then .ok s.prompt else .error .wrongKind

/-- Go to a mode that is about nothing in particular. -/
def enter (s : Session) (m : Mode) : Session := { s with place := { mode := m } }

/-- Show lines. -/
def print (s : Session) (lines : List String) : Session :=
  { s with transcript := s.transcript ++ lines }

/-- End the session.  A boot that is under way ends with it. -/
def close (s : Session) : Session := { s with closed := true, deadline := none }

/-- Halt the device until the deadline. -/
def halt (s : Session) (deadline : Double) : Session :=
  { s with transcript := [], deadline := some deadline }

/-- The device has booted: the session starts over in user mode. -/
def boot (s : Session) : Session :=
  { s.enter .user with deadline := none, transcript := [bootBanner] }

/-! ## Recall -/

/-- The line of the history that is so many steps before the newest. -/
def recalled (s : Session) (steps : Nat) : String :=
  s.history.reverse[steps]?.getD ""

/-- Go one line back in the history; the oldest line stays. -/
def recallPrevious (s : Session) : String × Session :=
  if s.history.isEmpty then ("", s)
  else
    let steps := match s.cursor with
      | none => 0
      | some k => min (k + 1) (s.history.length - 1)
    (s.recalled steps, { s with cursor := some steps })

/-- Go one line forward in the history; past the newest line, recall ends. -/
def recallNext (s : Session) : String × Session :=
  match s.cursor with
  | some (k + 1) => (s.recalled k, { s with cursor := some k })
  | _ => ("", { s with cursor := none })

end Session

end NetLab
