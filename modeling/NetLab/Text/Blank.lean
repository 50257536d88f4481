import NetLab.Text.Ranges

set_option autoImplicit false

/-!
# Blanks and words

Words are the maximal runs of characters that are not blank.  `trim` drops the blanks at both
ends of a text.  A number may stand between blanks too, but the four ASCII separators do not
count there (`isMargin`).
-/

namespace NetLab.Text

/-- The characters that separate words. -/
def blanks : Ranges :=
  [(0x09, 0x0D), (0x1C, 0x20), (0x85, 0x85), (0xA0, 0xA0), (0x1680, 0x1680), (0x2000, 0x200A),
   (0x2028, 0x2029), (0x202F, 0x202F), (0x205F, 0x205F), (0x3000, 0x3000)]

/-- A character that separates words. -/
def isBlank (c : Char) : Bool := blanks.has c

/-- A character that may surround a number: a blank other than U+001C to U+001F. -/
def isMargin (c : Char) : Bool := isBlank c && !(0x1C ≤ c.toNat && c.toNat ≤ 0x1F)

/-- Drop what `p` holds for at the end. -/
def dropRightWhile (p : Char → Bool) (cs : List Char) : List Char :=
  (cs.reverse.dropWhile p).reverse

/-- Drop what `p` holds for at both ends. -/
def strip (p : Char → Bool) (cs : List Char) : List Char :=
  dropRightWhile p (cs.dropWhile p)

/-- The text without the blanks at its ends. -/
def trim (s : String) : String := String.ofList (strip isBlank s.toList)

/-- The text without the blanks at its end. -/
def trimRight (s : String) : String := String.ofList (dropRightWhile isBlank s.toList)

/-- Cut into words; `word` holds, reversed, the letters of the word being read. -/
def wordsFrom (word : List Char) : List Char → List (List Char)
  | [] => if word.isEmpty then [] else [word.reverse]
  | c :: r =>
    if isBlank c then
      if word.isEmpty then wordsFrom [] r else word.reverse :: wordsFrom [] r
    else wordsFrom (c :: word) r

/-- The words of a text, in order. -/
def words (s : String) : List String := (wordsFrom [] s.toList).map String.ofList

/-- The words of a line, joined by single spaces. -/
def unwords (ws : List String) : String := " ".intercalate ws

end NetLab.Text
