import NetLab.Document.Value

set_option autoImplicit false

/-!
# Interfaces and terminal lines

An interface record holds what configuration commands set.  Commands put a truth value, numbers
and texts there; a direct edit may put anything in their place, and what is put there is kept and
shown.  The record carries a name of its own beside the one under which its device keeps it; only
a direct edit can make the two differ.
-/

namespace NetLab

/-- The lowest VLAN id. -/
def minVlan : Int := 1

/-- The highest VLAN id. -/
def maxVlan : Int := 4094

/-- The VLAN list of a trunk that carries every VLAN. -/
def allVlans : String := "1-4094"

/-- How a switch port treats VLAN tags. -/
inductive PortMode where
  | access
  | trunk
  | dynamic
  /-- a value that is no port mode, put there by a direct edit -/
  | other (v : Value)
  deriving DecidableEq, Repr, Inhabited

namespace PortMode

/-- The names of the port modes. -/
def names : List String := ["access", "trunk", "dynamic"]

/-- A port mode in documents. -/
def value : PortMode → Value
  | access => .text "access"
  | trunk => .text "trunk"
  | dynamic => .text "dynamic"
  | other v => v

/-- The port mode of that name; any other name is kept as it is. -/
def ofName (s : String) : PortMode :=
  if s = "access" then access else if s = "trunk" then trunk
  else if s = "dynamic" then dynamic else other (.text s)

/-- The port mode that a value names; any other value is kept as it is. -/
def ofValue : Value → PortMode
  | .text s => ofName s
  | v => other v

/-- One of the three port modes. -/
def isLegal : PortMode → Bool
  | other _ => false
  | _ => true

/-- The port mode that a document names, if it names one of the three. -/
def ofValue? (v : Value) : Option PortMode := if (ofValue v).isLegal then some (ofValue v) else none

end PortMode

/-- The configuration of an interface. -/
structure Interface where
  /-- the name under which its device keeps it -/
  key : Value
  /-- the name that it carries -/
  name : Value := key
  description : Value := .null
  ip : Value := .null
  mask : Value := .null
  shutdown : Value := .bool false
  mode : PortMode := .access
  accessVlan : Value := .int 1
  trunkAllowed : Value := .text allVlans
  nativeVlan : Value := .int 1
  deriving DecidableEq, Repr, Inhabited

/-- The configuration of a terminal line. -/
structure Line where
  password : Value := .null
  login : Value := .bool false
  deriving DecidableEq, Repr, Inhabited

/-- The two terminal lines that a device can have. -/
inductive LineName where
  | console
  | vty
  deriving DecidableEq, Repr, Inhabited

namespace LineName

/-- The name of a line in commands and documents. -/
def name : LineName → String
  | console => "console"
  | vty => "vty"

/-- The line of that name. -/
def ofName? (s : String) : Option LineName :=
  if s = "console" then some console else if s = "vty" then some vty else none

/-- The line that a value names. -/
def ofValue? : Value → Option LineName
  | .text s => ofName? s
  | _ => none

/-- The names of the lines. -/
def names : List String := [console.name, vty.name]

end LineName

/-- The terminal lines of a device; a line that was removed is absent. -/
structure Lines where
  console : Option Line := some {}
  vty : Option Line := some {}
  deriving DecidableEq, Repr, Inhabited

namespace Lines

/-- The line of that name. -/
def get? (t : Lines) : LineName → Option Line
  | .console => t.console
  | .vty => t.vty

/-- Replace or remove the line of that name. -/
def set (t : Lines) (n : LineName) (line : Option Line) : Lines :=
  match n with
  | .console => { t with console := line }
  | .vty => { t with vty := line }

/-- The lines that are there, by name. -/
def toList (t : Lines) : List (LineName × Line) :=
  [LineName.console, LineName.vty].filterMap fun n => (t.get? n).map fun line => (n, line)

end Lines

end NetLab
