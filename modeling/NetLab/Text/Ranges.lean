set_option autoImplicit false

/-!
# Classes of characters

A class of characters is a list of closed ranges of code points.
-/

namespace NetLab.Text

/-- Closed ranges of code points. -/
abbrev Ranges := List (Nat × Nat)

/-- The character lies in one of the ranges. -/
def Ranges.has (rs : Ranges) (c : Char) : Bool :=
  rs.any fun r => r.1 ≤ c.toNat && c.toNat ≤ r.2

end NetLab.Text
