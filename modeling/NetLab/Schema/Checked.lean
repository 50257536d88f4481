import NetLab.Document.Value
import NetLab.Fault
import NetLab.Schema.IntegerText
import NetLab.Schema.Problem
import NetLab.Text.Case

set_option autoImplicit false

/-!
# Strict reading

A strict reading gives a typed value, or every problem that it found, in order.  Scalars are
read with a little tolerance: a text or a float may hold an integer, and several words, zero and
one stand for truth values.
-/

namespace NetLab.Schema

/-- A typed value, or all problems with it. -/
inductive Checked (α : Type) where
  | ok (value : α)
  | bad (problems : List Problem)
  deriving DecidableEq, Repr, Inhabited

namespace Checked

variable {α β : Type}

/-- One problem, at the place itself. -/
def complain (c : Complaint) : Checked α := .bad [⟨[], c⟩]

/-- A typed value, or the one thing that is wrong. -/
def ofExcept : Except Complaint α → Checked α
  | .ok a => ok a
  | .error c => complain c

/-- Change the typed value. -/
def map (f : α → β) : Checked α → Checked β
  | ok a => ok (f a)
  | bad ps => bad ps

/-- Apply to one more part; the problems of both count. -/
def and : Checked (α → β) → Checked α → Checked β
  | ok f, ok a => ok (f a)
  | ok _, bad qs => bad qs
  | bad ps, ok _ => bad ps
  | bad ps, bad qs => bad (ps ++ qs)

/-- A further test of a value that is well-typed. -/
def andThen : Checked α → (α → Checked β) → Checked β
  | ok a, f => f a
  | bad ps, _ => bad ps

/-- The problems of a part, seen from the whole. -/
def under (key : String) : Checked α → Checked α
  | ok a => ok a
  | bad ps => bad (ps.map (·.under key))

/-- Parts in order; the problems of all count. -/
def all : List (Checked α) → Checked (List α)
  | [] => ok []
  | x :: xs => (x.map List.cons).and (all xs)

end Checked

/-- Read a value strictly. -/
abbrev Reader (α : Type) : Type := Value → Checked α

/-! ## Texts -/

/-- A text. -/
def text : Reader String
  | .text s => .ok s
  | _ => .complain .notText

/-- A text with at least one character. -/
def nonemptyText : Reader String := fun v =>
  (text v).andThen fun s => if s = "" then .complain .emptyText else .ok s

/-- A value that may be absent. -/
def optional {α : Type} (r : Reader α) : Reader (Option α)
  | .null => .ok none
  | v => (r v).map some

/-- One of the texts that `pick` knows. -/
def oneOf {α : Type} (choices : String) (pick : String → Option α) : Reader α
  | .text s =>
    match pick s with
    | some a => .ok a
    | none => .complain (.notOneOf choices)
  | _ => .complain (.notOneOf choices)

/-! ## Integers -/

/-- Whole numbers from here on are too large to be taken from a float, and stand for no truth
value. -/
def wordLimit : Nat := Nat.pow 2 63

/-- The integer that a float holds. -/
def wholeFloat : Double → Except Complaint Int
  | .finite negative units =>
    match (Double.finite negative units).toInt? with
    | none => .error .fractional
    | some n => if n.natAbs < wordLimit then .ok n else .error .oversizedInteger
  | _ => .error .notFinite

/-- The integer that a text writes. -/
def readInteger (s : String) : Except Complaint Int :=
  match IntegerText.read s with
  | .ok n => .ok n
  | .error .malformed => .error .unreadableInteger
  | .error (.tooLong _) => .error .oversizedInteger

/-- An integer. -/
def integer : Reader Int
  | .int n => .ok n
  | .bool b => .ok (if b then 1 else 0)
  | .float d => .ofExcept (wholeFloat d)
  | .text s => .ofExcept (readInteger s)
  | _ => .complain .notInteger

/-- An integer within bounds. -/
def integerWithin (least greatest : Int) : Reader Int := fun v =>
  (integer v).andThen fun n =>
    if n < least then .complain (.below least)
    else if greatest < n then .complain (.above greatest)
    else .ok n

/-! ## Truth values -/

/-- The words for true. -/
def trueWords : List String := ["1", "on", "t", "true", "y", "yes"]

/-- The words for false. -/
def falseWords : List String := ["0", "off", "f", "false", "n", "no"]

/-- The truth value that an integer stands for: zero is false, and one is true. -/
def truthOf (n : Int) : Checked Bool :=
  if n = 0 then .ok false
  else if n = 1 then .ok true
  else .complain .unclearBool

/-- A truth value. -/
def boolean : Reader Bool
  | .bool b => .ok b
  | .int n => if -wordLimit ≤ n && n < wordLimit then truthOf n else .complain .notBool
  | .float d =>
    match wholeFloat d with
    | .ok n => truthOf n
    | .error _ => .complain .notBool
  | .text s =>
    let word := Text.lower s
    if trueWords.contains word then .ok true
    else if falseWords.contains word then .ok false
    else .complain .unclearBool
  | _ => .complain .notBool

/-! ## Records and lists -/

/-- A list of things of one type. -/
def listOf {α : Type} (r : Reader α) : Reader (List α)
  | .list xs => .all (xs.zipIdx.map fun p => (r p.1).under (toString p.2))
  | _ => .complain .notList

/-- A table of things of one type, by key. -/
def tableOf {α : Type} (r : Reader α) : Reader (List (String × α))
  | .object fs => .all (fs.map fun f => ((r f.2).map fun a => (f.1, a)).under f.1)
  | _ => .complain .notRecord

/-- A field that must be there. -/
def required {α : Type} (name : String) (r : Reader α) (fs : List (String × Value)) : Checked α :=
  match Value.field? name fs with
  | some v => (r v).under name
  | none => (Checked.complain .missing).under name

/-- A field that has a default. -/
def defaulted {α : Type} (name : String) (default : α) (r : Reader α)
    (fs : List (String × Value)) : Checked α :=
  match Value.field? name fs with
  | some v => (r v).under name
  | none => .ok default

/-- A field that may be absent or null. -/
def field? {α : Type} (name : String) (r : Reader α) (fs : List (String × Value)) :
    Checked (Option α) :=
  defaulted name none (optional r) fs

/-- The record has no fields but these. -/
def noOthers (names : List String) (fs : List (String × Value)) : Checked Unit :=
  .map (fun _ => ()) (.all (fs.filterMap fun f =>
    if names.contains f.1 then none
    else some ((Checked.complain .unexpected : Checked Unit).under f.1)))

/-- A record type: its name, its fields, and how they are read. -/
def model {α : Type} (name : String) (names : List String)
    (fields : List (String × Value) → Checked α) : Reader α
  | .object fs => ((fields fs).map fun a _ => a).and (noOthers names fs)
  | _ => .complain (.notModel name)

end NetLab.Schema
