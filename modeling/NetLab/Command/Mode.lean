import NetLab.Document.Reading

set_option autoImplicit false

/-!
# Modes

The mode of a session decides which commands it takes and how its prompt ends.
-/

namespace NetLab

/-- A mode of a session. -/
inductive Mode where
  | user
  | privileged
  | config
  | interface
  | vlan
  | line
  /-- a value that is no mode, put there by a direct edit -/
  | other (v : Value)
  deriving DecidableEq, Repr, Inhabited

namespace Mode

/-- A mode in documents: the six modes have names. -/
def value : Mode → Value
  | user => .text "user"
  | privileged => .text "privileged"
  | config => .text "config"
  | interface => .text "config-if"
  | vlan => .text "config-vlan"
  | line => .text "config-line"
  | other v => v

/-- The six modes. -/
def all : List Mode := [user, privileged, config, interface, vlan, line]

/-- The mode that a value names; any other value is kept as it is. -/
def ofValue (v : Value) : Mode := (all.find? fun m => m.value = v).getD (other v)

/-- The mode can be looked up in a table. -/
def isKey (m : Mode) : Bool := m.value.key.isOk

/-- The mode that a value names where it is looked up in a table. -/
def read (v : Value) : Except Fault Mode := v.key.map fun _ => ofValue v

/-- The end of the prompt. -/
def promptMark : Mode → String
  | user => ">"
  | privileged => "#"
  | config => "(config)#"
  | interface => "(config-if)#"
  | vlan => "(config-vlan)#"
  | line => "(config-line)#"
  | other _ => ">"

/-- Commands are executed, not configured, in this mode. -/
def isExec : Mode → Bool
  | user | privileged => true
  | _ => false

end Mode

end NetLab
