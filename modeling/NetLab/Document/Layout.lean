import NetLab.Document.Value
import NetLab.Text.Split

set_option autoImplicit false

/-!
# Documents as files

A document is written with one item or field a line, two spaces deeper for each level.  Texts
stand in double quotes; of their characters only controls, the quote and the backslash are
escaped.
-/

namespace NetLab.Layout

/-- One character inside a quoted text. -/
def escape (c : Char) : List Char :=
  if c.toNat = 0x22 || c = '\\' then ['\\', c]
  else if c = '\n' then ['\\', 'n']
  else if c = '\r' then ['\\', 'r']
  else if c = '\t' then ['\\', 't']
  else if c.toNat = 0x08 then ['\\', 'b']
  else if c.toNat = 0x0C then ['\\', 'f']
  else if c.toNat < 0x20 then '\\' :: 'u' :: Text.Quoted.hex 4 c.toNat
  else [c]

/-- A text in double quotes. -/
def quote (s : String) : String :=
  String.ofList (Text.Quoted.double :: s.toList.flatMap escape ++ [Text.Quoted.double])

/-- A double as text. -/
def number : Double → String
  | .infinite n => if n then "-Infinity" else "Infinity"
  | .undefined => "NaN"
  | d => d.display

/-- A new line at a depth. -/
def newline (depth : Nat) : String := "\n" ++ String.ofList (List.replicate (2 * depth) ' ')

mutual

/-- A document that starts at a depth. -/
def render (depth : Nat) : Value → String
  | .null => "null"
  | .bool b => if b then "true" else "false"
  | .int n => toString n
  | .float d => number d
  | .text s => quote s
  | .list [] => "[]"
  | .list (x :: xs) => "[" ++ renderItems (depth + 1) "" (x :: xs) ++ newline depth ++ "]"
  | .object [] => "\x7b\x7d"
  | .object (f :: fs) =>
    "\x7b" ++ renderFields (depth + 1) "" (f :: fs) ++ newline depth ++ "\x7d"

/-- Items on lines of their own, each after a separator. -/
def renderItems (depth : Nat) (separator : String) : List Value → String
  | [] => ""
  | x :: xs => separator ++ newline depth ++ render depth x ++ renderItems depth "," xs

/-- Fields on lines of their own, each after a separator. -/
def renderFields (depth : Nat) (separator : String) : List (String × Value) → String
  | [] => ""
  | (k, v) :: fs =>
    separator ++ newline depth ++ quote k ++ ": " ++ render depth v ++ renderFields depth "," fs

end

/-- The lines of the file that holds a document. -/
def lines (v : Value) : List String := Text.lines (render 0 v)

end NetLab.Layout
