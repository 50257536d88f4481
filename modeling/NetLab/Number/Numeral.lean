import NetLab.Text.Blank
import NetLab.Text.Digit

set_option autoImplicit false

/-!
# Whole numbers as text

A numeral is an optional sign and decimal digits of any script, with single underscores allowed
between digits, and may stand between blanks.  A numeral of more than 4300 digits is refused.
-/

namespace NetLab

namespace Numeral

/-- Why a text is no number. -/
inductive Refusal where
  /-- the text does not have the form of a numeral -/
  | malformed
  /-- the numeral has more digits than a numeral may have -/
  | tooLong (digits : Nat)
  deriving DecidableEq, Repr, Inhabited

/-- The most digits that a numeral may have. -/
def maxDigits : Nat := 4300

/-- Take a sign off the front; `true` is the minus. -/
def takeSign : List Char → Bool × List Char
  | '-' :: r => (true, r)
  | '+' :: r => (false, r)
  | cs => (false, cs)

/-- Read digits with single underscores between them.  `fresh` tells that a digit must come
next.  The result is the digit values and the text after them; `none` if an underscore stands
alone, doubled or last. -/
def digitsFrom (fresh : Bool) : List Char → Option (List Nat × List Char)
  | [] => if fresh then none else some ([], [])
  | c :: r =>
    match Text.digitValue? c with
    | some d => (digitsFrom false r).map fun p => (d :: p.1, p.2)
    | none =>
      if c = '_' then
        if fresh then none else digitsFrom true r
      else if fresh then none else some ([], c :: r)

/-- Read a numeral from a text without blanks in front. -/
def read (cs : List Char) : Except Refusal Int :=
  let signed := takeSign cs
  match digitsFrom true signed.2 with
  | none => .error .malformed
  | some (ds, rest) =>
    if maxDigits < ds.length then .error (.tooLong ds.length)
    else if rest.all Text.isMargin then
      .ok (if signed.1 then -(Text.ofDigits ds : Int) else Text.ofDigits ds)
    else .error .malformed

/-- The number that a text writes. -/
def parse (s : String) : Except Refusal Int := read (s.toList.dropWhile Text.isMargin)

end Numeral

end NetLab
