import NetLab.Number.Double
import NetLab.Number.Numeral

set_option autoImplicit false

/-!
# Doubles as text

A double is written with the fewest decimal digits that read back as the same double, and of
those the nearest.  The digits stand in positional notation for values from `10 ^ -4` to below
`10 ^ 16`, always with a fraction, and otherwise with an exponent.
-/

namespace NetLab.Double

/-! ## Writing -/

/-- The number of digits before the point of a value of that many units: the least `p` with
`value < 10 ^ p`, negative for a small fraction. -/
def magnitude (units : Nat) : Int :=
  if one ≤ units then (toString (units / one)).length
  else ((List.range 330).find? fun k => one ≤ units * Nat.pow 10 (k + 1)).elim 0 fun k => -(k : Int)

/-- The two neighbours of a value on the grid of `10 ^ -places`, the nearer first. -/
def neighbours (units : Nat) (places : Int) : List Nat :=
  let num := if 0 ≤ places then units * Nat.pow 10 places.toNat else units
  let den := if 0 ≤ places then one else one * Nat.pow 10 (-places).toNat
  let q := num / den
  let r := num % den
  if 2 * r < den || (2 * r = den && q % 2 = 0) then [q, q + 1] else [q + 1, q]

/-- The fewest digits, with the exponent of the last one, that read back as the value. -/
def shortest (units : Nat) : Nat × Int :=
  let candidates := (List.range 17).flatMap fun (n : Nat) =>
    let places : Int := (n : Int) + 1 - magnitude units
    (neighbours units places).map fun d => (d, -places)
  (candidates.find? fun c => ofDecimal false c.1 c.2 = finite false units).getD (0, 0)

/-- Drop the zeros at the end of a digit text, but keep one digit. -/
def dropZeros (ds : List Char) : List Char :=
  match Text.dropRightWhile (· = '0') ds with
  | [] => ['0']
  | kept => kept

/-- An exponent: its sign and at least two digits. -/
def exponentText (e : Int) : String :=
  (if e < 0 then "e-" else "e+") ++
    (if e.natAbs < 10 then "0" else "") ++ toString e.natAbs

/-- A positive finite value as text. -/
def displayUnits (units : Nat) : String :=
  let found := shortest units
  let all := (toString found.1).toList
  let point : Int := all.length + found.2
  let ds := dropZeros all
  if -4 < point && point ≤ 16 then
    if point ≤ 0 then
      "0." ++ String.ofList (List.replicate (-point).toNat '0' ++ ds)
    else
      let whole := ds.take point.toNat ++ List.replicate (point.toNat - ds.length) '0'
      let fraction := ds.drop point.toNat
      String.ofList whole ++ "." ++ String.ofList (if fraction.isEmpty then ['0'] else fraction)
  else
    let fraction := ds.drop 1
    String.ofList (ds.take 1) ++
      (if fraction.isEmpty then "" else "." ++ String.ofList fraction) ++ exponentText (point - 1)

/-- A double as text. -/
def display : Double → String
  | finite n u => (if n then "-" else "") ++ (if u = 0 then "0.0" else displayUnits u)
  | infinite n => if n then "-inf" else "inf"
  | undefined => "nan"

/-! ## Reading -/

/-- A character of a numeral in ASCII: digits of any script become ASCII digits. -/
def plainDigit (c : Char) : Char :=
  match Text.digitValue? c with
  | some d => Char.ofNat (0x30 + d)
  | none => c

/-- Underscores removed; `none` if one does not stand between two digits. -/
def joinDigits (afterDigit : Bool) : List Char → Option (List Char)
  | [] => some []
  | '_' :: c :: r =>
    if afterDigit && Text.isAsciiDigit c then (joinDigits true r).map (c :: ·) else none
  | c :: r =>
    if c = '_' then none else (joinDigits (Text.isAsciiDigit c) r).map (c :: ·)

/-- The digits at the front of a text, and the rest. -/
def takeDigits (cs : List Char) : List Char × List Char :=
  (cs.takeWhile Text.isAsciiDigit, cs.dropWhile Text.isAsciiDigit)

/-- The number that ASCII digits write. -/
def digitsValue (ds : List Char) : Nat := Text.ofDigits (ds.map fun c => c.toNat - 0x30)

/-- Read what follows the digits: nothing, or an exponent. -/
def exponent? : List Char → Option Int
  | [] => some 0
  | c :: r =>
    if c = 'e' || c = 'E' then
      let signed := Numeral.takeSign r
      let digits := takeDigits signed.2
      if digits.1.isEmpty || !digits.2.isEmpty then none
      else
        let n : Int := digitsValue digits.1
        some (if signed.1 then -n else n)
    else none

/-- Digits with an optional point among, before or behind them, and an optional exponent. -/
def magnitude? (negative : Bool) (cs : List Char) : Option Double :=
  let whole := takeDigits cs
  let fraction := match whole.2 with
    | '.' :: r => takeDigits r
    | r => ([], r)
  if whole.1.isEmpty && fraction.1.isEmpty then none
  else (exponent? fraction.2).map fun e =>
    ofDecimal negative (digitsValue (whole.1 ++ fraction.1)) (e - fraction.1.length)

/-- The spellings of infinity and of the undefined number, in small letters. -/
def named? (negative : Bool) (word : List Char) : Option Double :=
  if word = "inf".toList || word = "infinity".toList then some (infinite negative)
  else if word = "nan".toList then some undefined
  else none

/-- A small ASCII letter for a capital one. -/
def smallLetter (c : Char) : Char :=
  if 0x41 ≤ c.toNat && c.toNat ≤ 0x5A then Char.ofNat (c.toNat + 0x20) else c

/-- The double that a text writes, if it writes one. -/
def parse? (s : String) : Option Double :=
  let plain := (Text.strip Text.isMargin s.toList).map plainDigit
  (joinDigits false plain).bind fun cs =>
    let signed := Numeral.takeSign cs
    match named? signed.1 (signed.2.map smallLetter) with
    | some d => some d
    | none => magnitude? signed.1 signed.2

end NetLab.Double
