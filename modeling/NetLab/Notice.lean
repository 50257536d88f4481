import NetLab.Command.Mode
import NetLab.Journal
import NetLab.Route.Trace

set_option autoImplicit false

/-!
# Notices

What sessions report to a listener while they run.
-/

namespace NetLab

/-- What a session reports. -/
inductive Report where
  /-- the session opened -/
  | opened
  /-- the session closed -/
  | closed
  /-- a line is carried out -/
  | command (line : String) (mode : Mode)
  /-- a line printed something -/
  | output (line output : String)
  /-- the device restarts, which takes so many seconds -/
  | reload (seconds : Double)
  /-- a packet was sent -/
  | ping (target : String) (success : Bool) (reason : Route.Reason)
  /-- a hint was shown -/
  | hint (text : String)
  /-- no hint could be had for a line -/
  | hintFailed (line error : String)
  deriving DecidableEq, Repr, Inhabited

/-- A report and the device from whose session it comes. -/
structure Notice where
  uid : String
  report : Report
  deriving DecidableEq, Repr, Inhabited

namespace Notice

/-- The kind of the event that a report is. -/
def kind : Report → String
  | .opened => "cli_open"
  | .closed => "cli_close"
  | .command .. => "cli_command"
  | .output .. => "cli_output"
  | .reload .. => "cli_reload"
  | .ping .. => "cli_ping"
  | .hint .. => "cli_hint"
  | .hintFailed .. => "cli_hint_failed"

/-- What a report says beside its device. -/
def details : Report → List (String × Value)
  | .opened | .closed => []
  | .command line mode => [("command", .text line), ("mode", mode.value)]
  | .output line output => [("command", .text line), ("output", .text output)]
  | .reload seconds => [("seconds", .float seconds)]
  | .ping target success reason =>
    [("dst", .text target), ("success", .bool success), ("reason", .text reason.name)]
  | .hint text => [("hint", .text text)]
  | .hintFailed line error => [("command", .text line), ("error", .text error)]

/-- The notice as an event. -/
def toEvent (n : Notice) : Event :=
  { kind := kind n.report, data := ("uid", .text n.uid) :: details n.report }

end Notice

/-- Who is told of notices. -/
inductive Listener where
  /-- nobody -/
  | silent
  /-- a journal -/
  | recording (journal : Journal Notice)
  /-- somebody who fails at every notice, which is of no consequence -/
  | failing
  deriving DecidableEq, Repr, Inhabited

namespace Listener

/-- Tell the listener of a notice. -/
def hear (l : Listener) (n : Notice) : Listener :=
  match l with
  | recording j => recording (j.add n)
  | l => l

/-- The notices that the listener has kept. -/
def journal : Listener → Journal Notice
  | recording j => j
  | _ => Journal.empty none

end Listener

end NetLab
