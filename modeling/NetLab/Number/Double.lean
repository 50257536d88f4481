set_option autoImplicit false

/-!
# Double-precision numbers

Every finite double is a whole multiple of `2 ^ -1074`.  A number is kept as its sign and that
multiple, so order and addition are those of whole numbers; a result that needs more than 53
significant bits is rounded to the nearest number with 53, a half to the even one.
-/

namespace NetLab

/-- A double-precision number. -/
inductive Double where
  /-- `units · 2 ^ -1074`, taken negative if `negative` -/
  | finite (negative : Bool) (units : Nat)
  /-- larger, or smaller, than every finite number -/
  | infinite (negative : Bool)
  /-- the result of an operation that has none -/
  | undefined
  deriving DecidableEq, Repr, Inhabited

namespace Double

/-- The quotient rounded to the nearest whole number, a half to the even one. -/
def roundDiv (num den : Nat) : Nat :=
  let q := num / den
  let r := num % den
  if 2 * r < den then q else if den < 2 * r then q + 1 else if q % 2 = 0 then q else q + 1

/-- The quotient rounded to 53 significant bits. -/
def roundTo53 (num den : Nat) : Nat :=
  let scale := Nat.pow 2 ((num / den).log2 - 52)
  roundDiv num (den * scale) * scale

/-- The first number of units that is too large for a finite double. -/
def overflow : Nat := Nat.pow 2 2098

/-- The double nearest to `num / den` units. -/
def ofRatio (negative : Bool) (num den : Nat) : Double :=
  let units := roundTo53 num den
  if units < overflow then finite negative units else infinite negative

/-- The number of units of one. -/
def one : Nat := Nat.pow 2 1074

/-- Zero. -/
def zero : Double := finite false 0

/-- The double nearest to a whole number. -/
def ofInt (n : Int) : Double := ofRatio (n < 0) (n.natAbs * one) 1

/-- The double nearest to `digits · 10 ^ exponent`. -/
def ofDecimal (negative : Bool) (digits : Nat) (exponent : Int) : Double :=
  let size : Int := (toString digits).length
  if digits = 0 || exponent + size < -400 then finite negative 0
  else if 400 < exponent + size then infinite negative
  else if 0 ≤ exponent then ofRatio negative (digits * Nat.pow 10 exponent.toNat * one) 1
  else ofRatio negative (digits * one) (Nat.pow 10 (-exponent).toNat)

/-- The units with their sign. -/
def signed (negative : Bool) (units : Nat) : Int := if negative then -(units : Int) else units

/-- Either zero. -/
def isZero : Double → Bool
  | finite _ 0 => true
  | _ => false

/-- Less than zero. -/
def isNegative : Double → Bool
  | finite negative units => negative && units != 0
  | infinite negative => negative
  | undefined => false

/-- `a` is at most `b`; nothing is said of the undefined number. -/
def le : Double → Double → Bool
  | finite n u, finite m v => signed n u ≤ signed m v
  | infinite n, infinite m => n || !m
  | infinite n, finite _ _ => n
  | finite _ _, infinite m => !m
  | _, _ => false

/-- `a` is less than `b`; nothing is said of the undefined number. -/
def lt (a b : Double) : Bool := a.le b && !b.le a

/-- The sum, rounded to a double.  Zero adds nothing. -/
def add : Double → Double → Double
  | finite n u, finite m v =>
    if v = 0 then if u = 0 then finite (n && m) 0 else finite n u
    else if u = 0 then finite m v
    else
      let sum := signed n u + signed m v
      ofRatio (sum < 0) sum.natAbs 1
  | infinite n, infinite m => if n = m then infinite n else undefined
  | infinite n, finite _ _ => infinite n
  | finite _ _, infinite m => infinite m
  | _, _ => undefined

/-- A whole number with all its digits, for comparisons: it may have more bits than a double. -/
def exactly (n : Int) : Double := finite (n < 0) (n.natAbs * one)

/-- The whole number, if the double is one. -/
def toInt? : Double → Option Int
  | finite n u => if u % one = 0 then some (signed n (u / one)) else none
  | _ => none

/-- The whole part of a finite number of units. -/
def truncate (negative : Bool) (units : Nat) : Int := signed negative (units / one)

end Double

end NetLab
