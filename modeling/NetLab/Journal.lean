import NetLab.Document.Order

set_option autoImplicit false

/-!
# Journals

A journal keeps the newest entries that it was given, up to its capacity, oldest first.  A
capacity of zero or below keeps nothing; a journal without one keeps all.
-/

namespace NetLab

/-- The newest entries that were added. -/
structure Journal (α : Type) where
  capacity : Option Int
  entries : Array α
  deriving DecidableEq, Repr, Inhabited

namespace Journal

variable {α β : Type}

/-- The capacity of a journal for which none is given. -/
def usualCapacity : Int := 5000

/-- A journal without entries. -/
def empty (capacity : Option Int) : Journal α := ⟨capacity, #[]⟩

/-- How many entries are more than the capacity allows. -/
def overflow (j : Journal α) (size : Nat) : Nat :=
  match j.capacity with
  | none => 0
  | some c => (size - c).toNat

/-- Add an entry; the oldest ones go if there are too many. -/
def add (j : Journal α) (x : α) : Journal α :=
  let excess := j.overflow (j.entries.size + 1)
  let entries := j.entries.push x
  { j with entries := if excess = 0 then entries else entries.extract excess entries.size }

/-- Add entries in order. -/
def addAll (j : Journal α) (xs : List α) : Journal α := xs.foldl add j

/-- Drop all entries. -/
def clear (j : Journal α) : Journal α := { j with entries := #[] }

/-- The entries, oldest first. -/
def toList (j : Journal α) : List α := j.entries.toList

/-- A journal of what is said of the entries. -/
def map (f : α → β) (j : Journal α) : Journal β := ⟨j.capacity, j.entries.map f⟩

end Journal

/-! ## Events -/

/-- Something that happened: of what kind it is, and what it was about. -/
structure Event where
  kind : String
  data : List (String × Value) := []
  deriving DecidableEq, Repr, Inhabited

namespace Event

/-- The event is of a kind, and about a device if one is asked for; no value asks for none. -/
def isAbout (kind : String) (uid : Value) (e : Event) : Bool :=
  e.kind == kind && (uid = .null || (Value.field "uid" e.data).equals uid)

/-- The event as a document. -/
def toDocument (e : Event) : Value := .record [("kind", .text e.kind), ("data", .object e.data)]

end Event

namespace Journal

/-- The name of the format of a journal document. -/
def schema : String := "netsim-session-log/v1"

/-- Names that stand for the event's kind and for the journal itself, so no detail may have
them. -/
def reserved : List String := ["kind", "self"]

/-- Note that something happened.  Details that are no record, and a detail with a reserved name,
are a fault. -/
def note (j : Journal Event) (kind data : Value) : Except Fault (Journal Event) :=
  match data with
  | .object fs =>
    if fs.any fun f => reserved.contains f.1 then .error .wrongKind
    else .ok (j.add ⟨kind.display, fs⟩)
  | _ => .error .wrongKind

/-! ### Limits of any kind -/

/-- Entries are left out for the sake of a whole number only: any other number is a fault once the
size passes it, and what is no number is one at any size. -/
def checkLimit (limit : Value) (size : Nat) : Except Fault Unit :=
  match limit.whole? with
  | some _ => .ok ()
  | none => do
    if ← limit.before (.int size) then throw .wrongKind

/-- Add an event under a limit.  A limit that is a fault does not keep the event out. -/
def addWithin (limit : Value) (j : Journal Event) (e : Event) :
    Except Fault Unit × Journal Event :=
  let j := j.add e
  (checkLimit limit j.entries.size, j)

/-- Note that something happened, under a limit. -/
def noteWithin (limit : Value) (j : Journal Event) (kind data : Value) :
    Except Fault Unit × Journal Event :=
  match j.note kind data with
  | .error f => (.error f, j)
  | .ok noted => (checkLimit limit noted.entries.size, noted)

/-- Add events under a limit up to the first that is a fault. -/
def fillWithin (limit : Value) : Journal Event → List Event → Except Fault Unit × Journal Event
  | j, [] => (.ok (), j)
  | j, e :: es =>
    match addWithin limit j e with
    | (.ok (), j) => fillWithin limit j es
    | (.error f, j) => (.error f, j)

/-- The events of a kind, and about a device if one is asked for. -/
def ofKind (j : Journal Event) (kind : String) (uid : Value) : List Event :=
  j.toList.filter (Event.isAbout kind uid)

/-- A journal as a document, without the times of the events. -/
def toDocument (j : Journal Event) : Value :=
  .record [
    ("schema", .text schema),
    ("eventCount", .int j.toList.length),
    ("events", .list (j.toList.map Event.toDocument))]

/-- A journal as the document of a file, in the order of the file's fields.  `time` stands for
the time of every event. -/
def toFile (time : String) (j : Journal Event) : Value :=
  .object [
    ("schema", .text schema),
    ("eventCount", .int j.toList.length),
    ("events", .list (j.toList.map fun e =>
      .object [("ts", .text time), ("kind", .text e.kind), ("data", .object e.data)]))]

end Journal

end NetLab
