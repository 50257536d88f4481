import NetLab.Device.Kind

set_option autoImplicit false

/-!
# Advice on links

Two kinds of device may always be joined, but some pairs deserve a word of warning.
-/

namespace NetLab

/-- How serious a piece of advice is. -/
inductive AdviceLevel where
  | info
  | warning
  | error
  deriving DecidableEq, Repr, Inhabited

/-- The word for a level. -/
def AdviceLevel.name : AdviceLevel → String
  | info => "info"
  | warning => "warning"
  | error => "error"

/-- What to say of a link.  No link is refused. -/
structure LinkAdvice where
  message : String
  level : AdviceLevel
  deriving DecidableEq, Repr, Inhabited

namespace LinkAdvice

/-- Links are valid, whatever is said of them. -/
def isValid (_ : LinkAdvice) : Bool := true

/-- The advice on a link from one kind of device to another. -/
def between : Option Kind → Option Kind → LinkAdvice
  | some .pc, some .pc =>
    ⟨"PC connected directly to PC. Ensure IPs are in the same subnet.", .warning⟩
  | some .internet, some .pc =>
    ⟨"DANGER: Direct Internet connection to PC! Please use a Firewall or Router.", .error⟩
  | some .switchL2, some .internet =>
    ⟨"L2 Switches cannot terminate ISP links directly without a Router/Gateway.", .warning⟩
  | _, _ => ⟨"Connection established.", .info⟩

/-- The advice on a link between devices whose kinds are given by name. -/
def ofNames (source target : String) : LinkAdvice :=
  between (Kind.ofName? source) (Kind.ofName? target)

end LinkAdvice

end NetLab
