import NetLab.Number.Decimal

set_option autoImplicit false

/-!
# Integers in strict texts

A plain integer is an optional minus, then a single zero or ASCII digits that start with none.
A strict reading takes a text that is one as it stands.  Any other text is tidied first and must
be a plain integer then.  Tidying drops the blanks around a text, a plus, the zeros in front, a
fraction of zeros and the underscores between digits.  A text with too many digits in front is
refused as too long before it is tidied; one that has too many only afterwards is just no integer.

A minus behind zeros in front stands for the sign: `00-5` is `-5`.
-/

namespace NetLab.Schema.IntegerText

/-- A character that an integer without zeros in front can start with. -/
def isLead (c : Char) : Bool := c = '-' || ('1' ≤ c && c ≤ '9')

/-- Go on behind a zero in front.  `last` is the character before the rest: zeros and
underscores go, but the last character stays if a point follows it or nothing does. -/
def afterZero (last : Char) : List Char → Option (List Char)
  | [] => some [last]
  | c :: r =>
    if c = '0' || c = '_' then afterZero c r
    else if c = '.' then some (last :: c :: r)
    else if isLead c then some (c :: r)
    else none

/-- Drop the zeros in front, if the text starts as an integer does. -/
def dropZeros : List Char → Option (List Char)
  | [] => none
  | c :: r =>
    if c = '0' then afterZero c r
    else if isLead c then some (c :: r)
    else none

/-- Drop a fraction of zeros: the first point, if one or more zeros and nothing else follow. -/
def dropFraction (cs : List Char) : List Char :=
  match cs.dropWhile (· != '.') with
  | _ :: z :: zs => if (z :: zs).all (· = '0') then cs.takeWhile (· != '.') else cs
  | _ => cs

/-- Two underscores stand side by side. -/
def hasDouble : List Char → Bool
  | '_' :: '_' :: _ => true
  | _ :: r => hasDouble r
  | [] => false

/-- Drop the underscores, if each stands between other characters; else all stay. -/
def dropUnderscores (cs : List Char) : List Char :=
  if cs.head? = some '_' || cs.getLast? = some '_' || hasDouble cs then cs
  else cs.filter (· != '_')

/-- Take a sign off the front; `true` is the minus.  A plus and a minus do not go together. -/
def takeSign : List Char → Option (Bool × List Char)
  | '+' :: '-' :: _ => none
  | cs => some (Numeral.takeSign cs)

/-- The text of a plain integer, if tidying gets that far. -/
def tidy (cs : List Char) : Option (List Char) :=
  match takeSign (Text.strip Text.isMargin cs) with
  | none => none
  | some (negative, rest) =>
    (dropZeros rest).map fun kept =>
      let plain := dropUnderscores (dropFraction kept)
      if negative then '-' :: plain else plain

/-- Read a plain integer.  One that starts with more digits than an integer may have is too
long, whatever comes behind them. -/
def readPlain (cs : List Char) : Except Numeral.Refusal Int :=
  let negative := cs.head? = some '-'
  let body := if negative then cs.drop 1 else cs
  match body with
  | [] => .error .malformed
  | ['0'] => .ok 0
  | c :: r =>
    if c = '0' || !Text.isAsciiDigit c then .error .malformed
    else
      let digits := (c :: r).takeWhile Text.isAsciiDigit
      if Numeral.maxDigits < digits.length then .error (.tooLong digits.length)
      else if digits.length < (c :: r).length then .error .malformed
      else
        let value : Int := Double.digitsValue digits
        .ok (if negative then -value else value)

/-- The plain integer that a text turns into when it is tidied. -/
def readTidied (cs : List Char) : Option Int :=
  (tidy cs).bind fun plain => (readPlain plain).toOption

/-- The integer that a text writes. -/
def read (s : String) : Except Numeral.Refusal Int :=
  match readPlain s.toList with
  | .ok n => .ok n
  | .error (.tooLong digits) => .error (.tooLong digits)
  | .error .malformed =>
    match readTidied s.toList with
    | some n => .ok n
    | none => .error .malformed

end NetLab.Schema.IntegerText
