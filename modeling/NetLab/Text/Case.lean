import NetLab.Text.Case.Table

set_option autoImplicit false

/-!
# Letter case

`lower` and `upper` follow the full case mappings: a letter may become several, and a capital
sigma that ends a word becomes the final small sigma.
-/

namespace NetLab.Text

namespace Case

/-- The small form of a letter, wherever it stands. -/
def lowerOne (c : Char) : List Char :=
  if c.toNat < 0x80 then
    [if 0x41 ≤ c.toNat && c.toNat ≤ 0x5A then Char.ofNat (c.toNat + 0x20) else c]
  else if c.toNat = 0x130 then [Char.ofNat 0x69, Char.ofNat 0x307]
  else [Char.ofNat (shift lowering c.toNat)]

/-- The capital form of a letter. -/
def upperOne (c : Char) : List Char :=
  if c.toNat < 0x80 then
    [if 0x61 ≤ c.toNat && c.toNat ≤ 0x7A then Char.ofNat (c.toNat - 0x20) else c]
  else
    match raisingLong.find? (·.1 == c.toNat) with
    | some r => r.2.map Char.ofNat
    | none => [Char.ofNat (shift raising c.toNat)]

/-- A letter that exists in a small and a capital form, or is one of the two. -/
def isCased (c : Char) : Bool :=
  if c.toNat < 0x80 then
    (0x41 ≤ c.toNat && c.toNat ≤ 0x5A) || (0x61 ≤ c.toNat && c.toNat ≤ 0x7A)
  else cased.has c

/-- A character that a look for a neighbouring letter skips: among ASCII the apostrophe, full
stop, colon, circumflex and grave accent. -/
def isIgnorable (c : Char) : Bool :=
  if c.toNat < 0x80 then [0x27, 0x2E, 0x3A, 0x5E, 0x60].contains c.toNat
  else caseIgnorable.has c

/-- The nearest character that counts is a letter with case. -/
def meetsLetter (cs : List Char) : Bool :=
  match cs.dropWhile isIgnorable with
  | [] => false
  | c :: _ => isCased c

/-- The small forms of a text; `before` is what precedes it, nearest first. -/
def lowerFrom (before : List Char) : List Char → List Char
  | [] => []
  | c :: r =>
    (if c.toNat = 0x3A3 then
      [Char.ofNat (if meetsLetter before && !meetsLetter r then 0x3C2 else 0x3C3)]
    else lowerOne c) ++ lowerFrom (c :: before) r

end Case

/-- The text in small letters. -/
def lower (s : String) : String := String.ofList (Case.lowerFrom [] s.toList)

/-- The text in capitals. -/
def upper (s : String) : String := String.ofList (s.toList.flatMap Case.upperOne)

end NetLab.Text
