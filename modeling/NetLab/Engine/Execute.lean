import NetLab.Console.Run
import NetLab.Engine.Hint

set_option autoImplicit false

/-!
# Executing lines

A line is carried out in a session, on the network that all sessions share.  While the device
boots, lines are refused and leave no trace.  A session in a mode that cannot be looked up, where
only a direct edit can bring it, takes a line into its history and fails.
-/

namespace NetLab

/-- What a line comes to. -/
structure Reply where
  output : String := ""
  prompt : String := ""
  closed : Bool := false
  /-- the device is booting -/
  refused : Bool := false
  deriving DecidableEq, Repr, Inhabited

namespace Session

/-- The session with recall ended by a blank line. -/
def takeBlank (s : Session) : Session := { s with cursor := none }

/-- The session with a line in its history. -/
def takeLine (s : Session) (line : String) : Session :=
  { s with cursor := none, history := s.history ++ [line] }

/-- The session with a blank line typed. -/
def enterBlank (s : Session) : Session := s.takeBlank.print [s.prompt]

/-- The session with a line typed. -/
def enterLine (s : Session) (line : String) : Session :=
  (s.takeLine line).print [s.prompt ++ " " ++ line]

end Session

namespace Engine

/-- What a command of a session can reach. -/
def console (e : Engine) (s : Session) : Console := { network := e.network, session := s }

/-- Take over what a command did. -/
def accept (e : Engine) (id : Nat) (c : Console) : Engine :=
  (({ e with network := c.network }.setSession id c.session).follow id c.session).tellAll c.notices

/-- Show the output of a line, and ask for advice if it is an error. -/
def finishLine (e : Engine) (id : Nat) (s : Session) (line output : String) : Reply × Engine :=
  let e :=
    if output = "" then e
    else (e.setSession id (s.print (Text.lines output))).tell ⟨s.uid, .output line output⟩
  let e := if isErrorOutput output then e.ask ⟨id, line, output⟩ else e
  ({ output, prompt := if s.booting then "" else s.prompt }, e)

/-- Carry out a line that is not blank, in a session that is open and not booting. -/
def carryOut (e : Engine) (id : Nat) (s : Session) (line : String) :
    Except Fault Reply × Engine :=
  let typed := s.enterLine line
  let e := (e.setSession id typed).tell ⟨s.uid, .command line s.mode⟩
  match (e.console typed).dispatch ⟨e.clock, e.bootDelay⟩ (Text.words line) with
  | .failed f c => (.error f, e.accept id c)
  | .refused r c =>
    let (reply, e) := (e.accept id c).finishLine id c.session line r.message
    (.ok reply, e)
  | .done output c =>
    let e := e.accept id c
    if c.session.closed then
      (.ok { output, closed := true }, e.tell ⟨s.uid, .output line output⟩)
    else
      let (reply, e) := e.finishLine id c.session line output
      (.ok reply, e)

/-- Execute a line in a session. -/
def execute (e : Engine) (id : Nat) (line : String) : Except Fault Reply × Engine :=
  if (e.session? id).all (·.closed) then (.ok { closed := true }, e)
  else
    let e := e.poll id
    match e.session? id with
    | none => (.ok { closed := true }, e)
    | some s =>
      if s.booting then (.ok { refused := true }, e)
      else
        let stripped := Text.trim line
        if !s.mode.isKey then
          (.error .wrongKind,
            e.setSession id (if stripped = "" then s.takeBlank else s.takeLine stripped))
        else if stripped = "" then
          (.ok { prompt := s.prompt }, e.setSession id s.enterBlank)
        else e.carryOut id s stripped

/-- A line would be read: the session is open, and its device is not booting, or has booted by
now. -/
def isListening (e : Engine) (id : Nat) : Bool :=
  !(e.session? id).all (·.closed) && !((e.poll id).session? id).any (·.booting)

/-- Execute a line that is given by a value of any kind.  A value without a text is a fault where
a line would be read. -/
def executeValue (e : Engine) (id : Nat) (line : Value) : Except Fault Reply × Engine :=
  match line.line with
  | .ok text => e.execute id text
  | .error f => if e.isListening id then (.error f, e.poll id) else e.execute id ""

end Engine

end NetLab
