import NetLab.Document.Equality
import NetLab.Fault
import NetLab.Text.Pad

set_option autoImplicit false

/-!
# Lenient reading

How a value of any kind is taken where a document should hold a whole number, a list or a
record.
-/

namespace NetLab.Value

/-- The whole part of a number. -/
def wholePart : Double → Except Fault Int
  | .finite negative units => .ok (Double.truncate negative units)
  | .infinite _ => .error .infiniteNumber
  | .undefined => .error .undefinedNumber

/-- The value as a whole number: truth values count as 1 and 0, a fraction is cut off, a text is
read. -/
def toInt : Value → Except Fault Int
  | int n => .ok n
  | bool b => .ok (if b then 1 else 0)
  | float d => wholePart d
  | text s => readNumeral s
  | _ => .error .wrongKind

/-- The records of a list that may be absent.  What is given but cannot be gone through is a
fault; texts and records hold no records to go through. -/
def records : Value → Except Fault (List (List (String × Value)))
  | list xs => .ok <| xs.filterMap fun x =>
    match x with
    | object fs => some fs
    | _ => none
  | text _ | object _ => .ok []
  | v => if v.given then .error .wrongKind else .ok []

/-- The value shown in a column: truth values as 1 and 0; lists and records have no such form. -/
def column (width : Nat) : Value → Except Fault String
  | text s => .ok (Text.padRight width s)
  | bool b => .ok (Text.padRight width (if b then "1" else "0"))
  | int n => .ok (Text.padRight width (toString n))
  | float d => .ok (Text.padRight width d.display)
  | _ => .error .wrongKind

/-! ## Arguments of any kind -/

/-- The text that an argument gives.  What is not given counts as the empty text; anything else
has no text. -/
def line : Value → Except Fault String
  | text s => .ok s
  | v => if v.given then .error .wrongShape else .ok ""

/-- The text that an argument is. -/
def strictText : Value → Except Fault String
  | text s => .ok s
  | _ => .error .wrongShape

/-- The form in which a table keeps a key: values that say the same are one key.  Lists and
records are no keys of any table. -/
def key (v : Value) : Except Fault Value :=
  match v.plain with
  | list _ | object _ => .error .wrongKind
  | k => .ok k

/-- The key that a value is in a table of texts, if it is one of its keys.  Lists and records
are no keys of any table. -/
def textKey : Value → Except Fault (Option String)
  | text s => .ok (some s)
  | list _ | object _ => .error .wrongKind
  | _ => .ok none

/-- The key that a value is in a table of whole numbers, if it is one of its keys.  Lists and
records are no keys of any table. -/
def intKey (v : Value) : Except Fault (Option Int) :=
  match v.plain with
  | int n => .ok (some n)
  | list _ | object _ => .error .wrongKind
  | _ => .ok none

/-- The whole number that a value is: truth values are 1 and 0. -/
def whole? : Value → Option Int
  | int n => some n
  | bool b => some (if b then 1 else 0)
  | _ => none

/-- The number of seconds that a value gives: truth values count as 1 and 0.  A whole number must
round to a finite one. -/
def seconds : Value → Except Fault Double
  | int n =>
    match Double.ofInt n with
    | .finite negative units => .ok (.finite negative units)
    | _ => .error .hugeNumber
  | bool b => .ok (Double.ofInt (if b then 1 else 0))
  | float d => .ok d
  | _ => .error .wrongKind

/-- What is met when the value is gone through: items, characters or names of fields. -/
def items : Value → Except Fault (List Value)
  | list xs => .ok xs
  | text s => .ok (s.toList.map fun c => text (String.singleton c))
  | object fs => .ok (fs.map fun f => text f.1)
  | _ => .error .wrongKind

end NetLab.Value
