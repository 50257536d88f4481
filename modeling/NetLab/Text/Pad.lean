set_option autoImplicit false

/-!
# Columns

Texts filled up to the width of a column.  A text that is wider than its column is kept whole.
-/

namespace NetLab.Text

/-- Fill with spaces at the end. -/
def padRight (width : Nat) (s : String) : String :=
  s ++ String.ofList (List.replicate (width - s.length) ' ')

/-- A number with at least `width` characters; zeros go between the sign and the digits. -/
def zeroPadded (width : Nat) (n : Int) : String :=
  let sign := if n < 0 then "-" else ""
  let digits := toString n.natAbs
  sign ++ String.ofList (List.replicate (width - sign.length - digits.length) '0') ++ digits

end NetLab.Text
