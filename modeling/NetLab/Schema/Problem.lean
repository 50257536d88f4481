set_option autoImplicit false

/-!
# Problems of documents

What a strict reading finds wrong in a document, and where.  A place is the list of keys and
positions that lead to it.
-/

namespace NetLab.Schema

/-- What is wrong. -/
inductive Complaint where
  /-- a required field is left out -/
  | missing
  /-- there is no such field -/
  | unexpected
  | notText
  | emptyText
  | notList
  | notRecord
  /-- no record of this type -/
  | notModel (name : String)
  | notInteger
  /-- a text that writes no integer -/
  | unreadableInteger
  /-- a text too long to be read as an integer -/
  | oversizedInteger
  | fractional
  | notFinite
  | below (least : Int)
  | above (greatest : Int)
  | notBool
  /-- a number or text that stands for no truth value -/
  | unclearBool
  /-- not one of these texts -/
  | notOneOf (choices : String)
  /-- the value breaks a rule of its field -/
  | broken (rule : String)
  deriving DecidableEq, Repr, Inhabited

/-- The text of a complaint. -/
def Complaint.message : Complaint → String
  | missing => "Field required"
  | unexpected => "Extra inputs are not permitted"
  | notText => "Input should be a valid string"
  | emptyText => "String should have at least 1 character"
  | notList => "Input should be a valid list"
  | notRecord => "Input should be a valid dictionary"
  | notModel name => "Input should be a valid dictionary or instance of " ++ name
  | notInteger => "Input should be a valid integer"
  | unreadableInteger =>
    "Input should be a valid integer, unable to parse string as an integer"
  | oversizedInteger => "Unable to parse input string as an integer, exceeded maximum size"
  | fractional => "Input should be a valid integer, got a number with a fractional part"
  | notFinite => "Input should be a finite number"
  | below least => "Input should be greater than or equal to " ++ toString least
  | above greatest => "Input should be less than or equal to " ++ toString greatest
  | notBool => "Input should be a valid boolean"
  | unclearBool => "Input should be a valid boolean, unable to interpret input"
  | notOneOf choices => "Input should be " ++ choices
  | broken rule => "Value error, " ++ rule

/-- Something wrong at a place. -/
structure Problem where
  place : List String
  complaint : Complaint
  deriving DecidableEq, Repr, Inhabited

namespace Problem

/-- The problem of a part, seen from the whole. -/
def under (key : String) (p : Problem) : Problem := { p with place := key :: p.place }

/-- The text of a problem: its place, and what is wrong there. -/
def text (p : Problem) : String := ".".intercalate p.place ++ ": " ++ p.complaint.message

end Problem

end NetLab.Schema
