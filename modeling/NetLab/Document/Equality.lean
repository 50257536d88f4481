import NetLab.Document.Value

set_option autoImplicit false

/-!
# Values that say the same

Numbers of different kinds are equal if they are the same number, and truth values count as 1 and
0.  `Value.plain` writes every number in one way, so that values are equal when their plain forms
are the same.  The undefined number is an exception: alone it equals nothing, not even itself.
-/

namespace NetLab.Value

/-- A double, written as a whole number if it is one. -/
def plainNumber (d : Double) : Value :=
  match d.toInt? with
  | some n => int n
  | none => float d

mutual

/-- The value with every number written in one way. -/
def plain : Value → Value
  | null => null
  | bool b => int (if b then 1 else 0)
  | int n => int n
  | float d => plainNumber d
  | text s => text s
  | list xs => list (plainItems xs)
  | object fs => object (plainFields fs)

/-- The items of a list in plain form. -/
def plainItems : List Value → List Value
  | [] => []
  | x :: xs => x.plain :: plainItems xs

/-- The fields of a record in plain form. -/
def plainFields : List (String × Value) → List (String × Value)
  | [] => []
  | (k, v) :: fs => (k, v.plain) :: plainFields fs

end

/-- The values say the same. -/
def equals (a b : Value) : Bool := a ≠ .float .undefined && a.plain = b.plain

end NetLab.Value

namespace NetLab

/-- A value that stands for a thing.  Values that say the same stand for the same thing, however
they are written. -/
structure Ident where
  value : Value
  deriving Repr, Inhabited

instance : BEq Ident := ⟨fun a b => a.value.plain = b.value.plain⟩

end NetLab
