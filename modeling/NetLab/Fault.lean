import NetLab.Number.Numeral
import NetLab.Text.Quoted

set_option autoImplicit false

/-!
# Faults

Why an operation could not be done.  A fault is not a message of the simulated device: those
are refusals, which a session prints.  `Fault.message` is the text that a caller sees.
-/

namespace NetLab

/-- Why an operation could not be done. -/
inductive Fault where
  /-- no device has this id -/
  | unknownDevice (uid : String)
  /-- an end of a link is no device -/
  | unknownEnd
  /-- a record lacks this field, or a table this key -/
  | missingKey (key : String)
  /-- no mission has this number -/
  | unknownMission (shown : String)
  /-- a device id is blank -/
  | emptyDeviceId
  /-- no kind of device has this name; the name is cited -/
  | unknownKind (cited : String)
  /-- no status has this name; the name is cited -/
  | unknownStatus (cited : String)
  /-- no terminal line has this name; the name is cited -/
  | unknownLine (cited : String)
  /-- a link id is taken -/
  | duplicateLink (id : String)
  /-- a text that should be a whole number is not -/
  | badNumeral (text : String)
  /-- a whole number has too many digits -/
  | longNumeral (digits : Nat)
  /-- a whole number has too many digits to be written -/
  | longNumber
  /-- a text that should be a number is not -/
  | badNumber (text : String)
  /-- an undefined number has no whole part -/
  | undefinedNumber
  /-- an infinite number has no whole part -/
  | infiniteNumber
  /-- a whole number is too large to be taken as a length of time -/
  | hugeNumber
  /-- a value of this kind is not written as a whole number -/
  | notWhole (kind : String)
  /-- a wait has a negative length -/
  | negativeWait
  /-- the references of a document do not hold together -/
  | badReferences (problems : List String)
  /-- an interface was changed before it was made -/
  | neverEnsured (name uid : String)
  /-- interface mode without an interface -/
  | noInterface
  /-- VLAN mode without a VLAN -/
  | noVlan
  /-- line mode without a line -/
  | noLine
  /-- a mission has no step of this number, which is shown -/
  | noStep (mission : Int) (step : String)
  /-- a value is of a kind that the operation does not take -/
  | wrongKind
  /-- a value lacks the parts that the operation looks for -/
  | wrongShape
  /-- a document breaks its schema -/
  | badDocument (problems : List String)
  /-- an outside service failed -/
  | service (text : String)
  deriving DecidableEq, Repr, Inhabited

namespace Fault

/-- The text of a fault.  A cited numeral is cut off after 200 characters. -/
def message : Fault → String
  | unknownDevice uid => "Unknown device: " ++ uid
  | unknownEnd => "Unknown device"
  | missingKey key => key
  | unknownMission shown => "Unknown mission: " ++ shown
  | emptyDeviceId => "Device id must not be empty"
  | unknownKind cited => "Unknown device kind: " ++ cited
  | unknownStatus cited => "Unknown device status: " ++ cited
  | unknownLine cited => "Unknown line: " ++ cited
  | duplicateLink id => "Duplicate link id: " ++ id
  | badNumeral text =>
    "invalid literal for int() with base 10: " ++
      String.ofList ((Text.quoted text).toList.take 200)
  | longNumeral digits =>
    "Exceeds the limit (" ++ toString Numeral.maxDigits ++
      " digits) for integer string conversion: value has " ++ toString digits ++
      " digits; use sys.set_int_max_str_digits() to increase the limit"
  | longNumber =>
    "Exceeds the limit (" ++ toString Numeral.maxDigits ++
      " digits) for integer string conversion; use sys.set_int_max_str_digits() to increase the limit"
  | badNumber text => "could not convert string to float: " ++ Text.quoted text
  | undefinedNumber => "cannot convert float NaN to integer"
  | infiniteNumber => "cannot convert float infinity to integer"
  | hugeNumber => "int too large to convert to float"
  | notWhole kind => "Unknown format code 'd' for object of type '" ++ kind ++ "'"
  | negativeWait => Text.quoted "timeout" ++ " must be a non-negative number"
  | badReferences problems => "; ".intercalate problems
  | neverEnsured name uid => "Interface " ++ name ++ " on " ++ uid ++ " was never ensured"
  | noInterface => "Interface mode without a selected interface"
  | noVlan => "VLAN mode without a selected VLAN"
  | noLine => "Line mode without a selected line"
  | noStep mission step => "Mission " ++ toString mission ++ " has no step " ++ step
  | wrongKind => ""
  | wrongShape => ""
  | badDocument problems => "; ".intercalate problems
  | service text => text

/-- The fault says that something was looked up and not found. -/
def isLookup : Fault → Bool
  | unknownDevice _ | unknownEnd | missingKey _ | unknownMission _ => true
  | _ => false

/-- An apostrophe or a double quote. -/
def isQuote (c : Char) : Bool := c = Text.Quoted.single || c = Text.Quoted.double

/-- The fault as one problem of a list: a failed look-up is cited, and no quotes stand at the
ends. -/
def summary (f : Fault) : String :=
  let shown := if f.isLookup then Text.quoted f.message else f.message
  String.ofList (Text.strip isQuote shown.toList)

/-- The fault of a text that is no whole number. -/
def ofNumeral (text : String) : Numeral.Refusal → Fault
  | .malformed => badNumeral text
  | .tooLong digits => longNumeral digits

end Fault

/-- The whole number that a text writes. -/
def readNumeral (s : String) : Except Fault Int :=
  match Numeral.parse s with
  | .ok n => .ok n
  | .error r => .error (Fault.ofNumeral s r)

/-- The digits of a whole number, which may not be more than a numeral may have. -/
def writeNumeral (n : Int) : Except Fault String :=
  if n.natAbs < Nat.pow 10 Numeral.maxDigits then .ok (toString n) else .error .longNumber

end NetLab
