import NetLab.Collection.Index
import NetLab.Number.Decimal
import NetLab.Text.Quoted

set_option autoImplicit false

/-!
# Documents

Topologies, log entries and answers are documents: trees of records and lists whose leaves are
texts, numbers, truth values and nothing.  A document that comes from outside may hold any kind
of value anywhere, so the readers of `NetLab` ask whether a value is given (`Value.given`) and
how it is shown (`Value.display`), and decide what to do with each kind.
-/

namespace NetLab

/-- A document. -/
inductive Value where
  /-- no value -/
  | null
  | bool (b : Bool)
  | int (n : Int)
  | float (d : Double)
  | text (s : String)
  | list (items : List Value)
  /-- named fields -/
  | object (fields : List (String × Value))
  deriving Repr, Inhabited

namespace Value

/-! ## Equality -/

mutual

/-- The documents are the same. -/
def same : Value → Value → Bool
  | null, null => true
  | bool a, bool b => a == b
  | int a, int b => a == b
  | float a, float b => a = b
  | text a, text b => a == b
  | list a, list b => sameItems a b
  | object a, object b => sameFields a b
  | _, _ => false

/-- The lists hold the same documents. -/
def sameItems : List Value → List Value → Bool
  | [], [] => true
  | a :: as, b :: bs => same a b && sameItems as bs
  | _, _ => false

/-- The records hold the same names and documents in the same order. -/
def sameFields : List (String × Value) → List (String × Value) → Bool
  | [], [] => true
  | (k, a) :: as, (l, b) :: bs => k == l && same a b && sameFields as bs
  | _, _ => false

end

mutual

theorem same_iff : ∀ a b : Value, same a b = true ↔ a = b
  | null, b => by cases b <;> simp [same]
  | bool _, b => by cases b <;> simp [same]
  | int _, b => by cases b <;> simp [same]
  | float _, b => by cases b <;> simp [same]
  | text _, b => by cases b <;> simp [same]
  | list as, b => by cases b <;> simp [same, sameItems_iff as]
  | object as, b => by cases b <;> simp [same, sameFields_iff as]

theorem sameItems_iff : ∀ as bs : List Value, sameItems as bs = true ↔ as = bs
  | [], bs => by cases bs <;> simp [sameItems]
  | a :: as, bs => by cases bs <;> simp [sameItems, same_iff a, sameItems_iff as]

theorem sameFields_iff : ∀ as bs : List (String × Value), sameFields as bs = true ↔ as = bs
  | [], bs => by cases bs <;> simp [sameFields]
  | (k, a) :: as, bs => by
    cases bs with
    | nil => simp [sameFields]
    | cons b bs => simp [sameFields, same_iff a, sameFields_iff as, Prod.ext_iff]

end

instance : DecidableEq Value := fun a b => decidable_of_iff _ (same_iff a b)

/-! ## Parts -/

/-- A record of named fields, in the order of the names. -/
def record (fields : List (String × Value)) : Value := object (Index.ofList fields).entries

/-- A number that may be absent. -/
def ofInt? (n : Option Int) : Value := n.elim null int

/-- A text that may be absent. -/
def ofText? (s : Option String) : Value := s.elim null text

/-- A list of texts. -/
def texts (xs : List String) : Value := list (xs.map text)

/-- The field of that name in a list of fields. -/
def field? (name : String) (fields : List (String × Value)) : Option Value :=
  (fields.find? (·.1 == name)).map Prod.snd

/-- The value of a field that may be absent: absent counts as no value. -/
def field (name : String) (fields : List (String × Value)) : Value :=
  (field? name fields).getD null

/-! ## Presence -/

/-- The value is more than nothing: not `null`, `false`, a zero, or an empty text, list or
record. -/
def given : Value → Bool
  | null => false
  | bool b => b
  | int n => n != 0
  | float d => !d.isZero
  | text s => s != ""
  | list xs => !xs.isEmpty
  | object fs => !fs.isEmpty

/-- The value if it is given, else no value. -/
def ifGiven (v : Value) : Value := if v.given then v else null

/-! ## Display -/

mutual

/-- The form in which lists, records and messages show a value: texts are quoted. -/
def quoted : Value → String
  | null => "None"
  | bool b => if b then "True" else "False"
  | int n => toString n
  | float d => d.display
  | text s => Text.quoted s
  | list xs => "[" ++ quotedItems xs ++ "]"
  | object fs => "\x7b" ++ quotedFields fs ++ "\x7d"

/-- The items of a list, separated by commas. -/
def quotedItems : List Value → String
  | [] => ""
  | [x] => x.quoted
  | x :: xs => x.quoted ++ ", " ++ quotedItems xs

/-- The fields of a record, separated by commas. -/
def quotedFields : List (String × Value) → String
  | [] => ""
  | [(k, v)] => Text.quoted k ++ ": " ++ v.quoted
  | (k, v) :: fs => Text.quoted k ++ ": " ++ v.quoted ++ ", " ++ quotedFields fs

end

/-- The value as text: a text stands as it is.  The integers of a document were read from numerals,
so they have 4300 digits at most (`Numeral.maxDigits`), and each is written out.  A longer integer,
which no document holds, would have no text; that it is written out here as well means nothing. -/
def display : Value → String
  | text s => s
  | v => v.quoted

end Value

end NetLab
