set_option autoImplicit false

/-!
# Cutting at a character

A text is cut at every occurrence of a separator.  There is always one part more than there are
separators, so joining the parts gives the text back.
-/

namespace NetLab.Text

/-- The parts between the separators. -/
def splitChars (sep : Char) : List Char → List (List Char)
  | [] => [[]]
  | c :: r =>
    if c = sep then [] :: splitChars sep r
    else
      match splitChars sep r with
      | [] => [[c]]
      | part :: parts => (c :: part) :: parts

/-- The parts of a text between the separators. -/
def split (sep : Char) (s : String) : List String := (splitChars sep s.toList).map String.ofList

/-- The lines of a text. -/
def lines (s : String) : List String := split '\n' s

end NetLab.Text
