import NetLab.Document.Reading

set_option autoImplicit false

/-!
# The order of values

Numbers stand in the order of their size, texts in that of their characters, and lists in that of
the first items in which they differ.  Between values of different kinds there is no order, so a
list of values can be sorted only if any two of them can be compared; `Value.sortBy` keeps equal
values in the order in which they came.
-/

namespace NetLab.Value

/-- The number that a value is, with all its digits. -/
def amount? : Value → Option Double
  | int n => some (Double.exactly n)
  | bool b => some (Double.exactly (if b then 1 else 0))
  | float d => some d
  | _ => none

mutual

/-- The first value stands before the second. -/
def before : Value → Value → Except Fault Bool
  | text a, text b => .ok (decide (a < b))
  | list as, list bs => beforeItems as bs
  | a, b =>
    match a.amount?, b.amount? with
    | some x, some y => .ok (x.lt y)
    | _, _ => .error .wrongKind

/-- The first list stands before the second: at the first difference, or because it ends. -/
def beforeItems : List Value → List Value → Except Fault Bool
  | _, [] => .ok false
  | [], _ :: _ => .ok true
  | a :: as, b :: bs => if a.plain = b.plain then beforeItems as bs else before a b

end

/-- The first value is known to stand before the second. -/
def isBefore (a b : Value) : Bool :=
  match before a b with
  | .ok answer => answer
  | .error _ => false

/-- Any two values of the list can be compared. -/
def comparable : List Value → Bool
  | [] => true
  | a :: as => (as.all fun b => (before a b).isOk) && comparable as

/-- Items in the order of their keys. -/
def sortBy {α : Type} (key : α → Value) (xs : List α) : Except Fault (List α) :=
  if comparable (xs.map key) then .ok (xs.mergeSort fun a b => !(key b).isBefore (key a))
  else .error .wrongKind

end NetLab.Value
