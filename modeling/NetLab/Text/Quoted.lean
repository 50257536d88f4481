import NetLab.Text.Printable

set_option autoImplicit false

/-!
# Quoted text

The form in which messages cite a text.  It stands in single quotes, or in double quotes if it
holds a single quote and no double one.  The quote around it and the backslash are escaped;
characters that are not printable are written by code point.
-/

namespace NetLab.Text.Quoted

/-- A hexadecimal digit in lower case. -/
def hexDigit (n : Nat) : Char := Char.ofNat (if n < 10 then 0x30 + n else 0x57 + n)

/-- The lowest `width` hexadecimal digits of a number. -/
def hex (width n : Nat) : List Char :=
  (List.range width).reverse.map fun i => hexDigit (n / Nat.pow 16 i % 16)

/-- The apostrophe. -/
def single : Char := Char.ofNat 0x27

/-- The double quote. -/
def double : Char := Char.ofNat 0x22

/-- The quote that stands around a text. -/
def quoteFor (cs : List Char) : Char :=
  if cs.contains single && !cs.contains double then double else single

/-- One character inside the quotes. -/
def escape (quote c : Char) : List Char :=
  if c = quote || c = '\\' then ['\\', c]
  else if c = '\n' then ['\\', 'n']
  else if c = '\r' then ['\\', 'r']
  else if c = '\t' then ['\\', 't']
  else if isPrintable c then [c]
  else if c.toNat < 0x100 then '\\' :: 'x' :: hex 2 c.toNat
  else if c.toNat < 0x10000 then '\\' :: 'u' :: hex 4 c.toNat
  else '\\' :: 'U' :: hex 8 c.toNat

/-- The quoted form of a text. -/
def encode (cs : List Char) : List Char :=
  let quote := quoteFor cs
  quote :: cs.flatMap (escape quote) ++ [quote]

end Quoted

/-- The form in which messages cite a text. -/
def quoted (s : String) : String := String.ofList (Quoted.encode s.toList)

end NetLab.Text
