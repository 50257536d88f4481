import NetLab.Text.Digit
import NetLab.Text.Split

set_option autoImplicit false

/-!
# Addresses

A management address is four groups of one to three ASCII digits, separated by points.  The
groups are not checked for their size.  Two addresses are in one subnet if their first three
groups are the same texts.
-/

namespace NetLab.Address

/-- One to three digits followed by a point; the rest. -/
def takeGroup (cs : List Char) : Option (List Char) :=
  let digits := cs.takeWhile Text.isAsciiDigit
  match cs.dropWhile Text.isAsciiDigit with
  | '.' :: rest => if 1 ≤ digits.length && digits.length ≤ 3 then some rest else none
  | _ => none

/-- One to three digits and nothing else. -/
def isLastGroup (cs : List Char) : Bool :=
  1 ≤ cs.length && cs.length ≤ 3 && cs.all Text.isAsciiDigit

/-- The text is an address. -/
def isValid (s : String) : Bool :=
  match ((takeGroup s.toList).bind takeGroup).bind takeGroup with
  | some rest => isLastGroup rest
  | none => false

/-- The first three groups of an address, or as many as a text has. -/
def subnet (s : String) : String := ".".intercalate ((Text.split '.' s).take 3)

end NetLab.Address
