import NetLab.Text.Blank
import NetLab.Text.Case

set_option autoImplicit false

/-!
# Abbreviated keywords

A typed word stands for every keyword that starts with it, whatever its letter case.  A line
matches a command if its first words stand for the command's keywords in order; the words after
them are the command's arguments.
-/

namespace NetLab.Keyword

/-- The typed word stands for the keyword. -/
def abbreviates (typed keyword : String) : Bool :=
  (Text.lower typed).toList.isPrefixOf keyword.toList

/-- Match words against keywords.  The result is the words that are left over. -/
def matchWords : List String → List String → Option (List String)
  | [], rest => some rest
  | k :: ks, w :: ws => if abbreviates w k then matchWords ks ws else none
  | _ :: _, [] => none

/-- The keywords of a command line as it is written in full. -/
def keywords (canonical : String) : List String := Text.words (Text.lower canonical)

/-- Match a typed line against a command.  A command without keywords matches nothing. -/
def matchLine (typed canonical : String) : Option (List String) :=
  match keywords canonical with
  | [] => none
  | ks => matchWords ks (Text.words typed)

/-- The first choice that a typed word stands for. -/
def expand? (typed : String) (choices : List String) : Option String :=
  if Text.lower typed = "" then none else choices.find? (abbreviates typed)

/-- The words are the beginning of the keywords, with at least one keyword to come. -/
def isUnfinished : List String → List String → Bool
  | _ :: _, [] => true
  | k :: ks, w :: ws => abbreviates w k && isUnfinished ks ws
  | [], _ => false

end NetLab.Keyword
