import NetLab.Console.Basic
import NetLab.Engine.Registry
import NetLab.Number.Double

set_option autoImplicit false

/-!
# Engines

An engine runs sessions over one network.  Sessions are numbered in the order in which they
opened, closed ones included.  A registry says which of them stands for a device; opening a session
closes the one that stands there.
-/

namespace NetLab

/-- A question to the advisor: which session asks, what was typed, and the error it gave. -/
structure Question where
  session : Nat
  line : String
  error : String
  deriving DecidableEq, Repr, Inhabited

/-- What the advisor makes of a question. -/
inductive Advice where
  /-- it has nothing to say -/
  | nothing
  /-- it gives a tip -/
  | tip (text : String)
  /-- it fails -/
  | failed (error : String)
  deriving DecidableEq, Repr, Inhabited

/-- Sessions over a network. -/
structure Engine where
  network : Network := Network.empty
  sessions : List Session := []
  registry : Registry := {}
  clock : Double := Double.zero
  /-- how long a device takes to boot -/
  bootDelay : Double
  /-- there is an advisor to ask -/
  advised : Bool := false
  /-- the questions that are not answered yet, oldest first -/
  pending : List Question := []
  listener : Listener := .silent
  deriving DecidableEq, Repr

namespace Engine

/-- How long a device takes to boot unless something else is said. -/
def usualBootDelay : Double := Double.ofInt 3

/-- The boot delay that a value gives: a number, or a text that writes one. -/
def readBootDelay : Value → Except Fault Double
  | .text s =>
    match Double.parse? s with
    | some d => .ok d
    | none => .error (.badNumber s)
  | v => v.seconds

instance : Inhabited Engine := ⟨{ bootDelay := usualBootDelay }⟩

/-- Tell the listener. -/
def tell (e : Engine) (n : Notice) : Engine := { e with listener := e.listener.hear n }

/-- Tell the listener of notices in order. -/
def tellAll (e : Engine) (ns : List Notice) : Engine := ns.foldl tell e

/-- The session of a number. -/
def session? (e : Engine) (id : Nat) : Option Session := e.sessions[id]?

/-- Replace a session. -/
def setSession (e : Engine) (id : Nat) (s : Session) : Engine :=
  { e with sessions := e.sessions.set id s }

/-- Change a session, if it is there. -/
def editSession (e : Engine) (id : Nat) (f : Session → Session) : Engine :=
  { e with sessions := e.sessions.modify id f }

/-- Time passes. -/
def advance (e : Engine) (seconds : Double) : Engine := { e with clock := e.clock.add seconds }

/-! ## Opening and closing -/

/-- The session that stands for a device, whose id is taken as it stands. -/
def sessionFor? (e : Engine) (uid : String) : Option Nat := e.registry.find? uid

/-- A session was used: it does not stand for its device any more if it is closed now. -/
def follow (e : Engine) (id : Nat) (s : Session) : Engine :=
  { e with registry := e.registry.follow id s }

/-- Close a session.  One that is closed stays as it is. -/
def close (e : Engine) (id : Nat) : Engine :=
  match e.session? id with
  | some s =>
    if s.closed then e else ((e.setSession id s.close).follow id s.close).tell ⟨s.uid, .closed⟩
  | none => e

/-- Open a session on a device.  The one that stands for it, if there is one, is closed, and the new
one takes its place. -/
def openSession (e : Engine) (uid : String) : Except Fault (Nat × Engine) := do
  let d ← e.network.device uid
  let e := (e.sessionFor? d.uid).elim e e.close
  let s := Session.start d.uid d.kind.name d.hostname
  let id := e.sessions.length
  return (id,
    { e with
      sessions := e.sessions ++ [s]
      registry := e.registry.enter d.uid id }.tell ⟨d.uid, .opened⟩)

end Engine

end NetLab
