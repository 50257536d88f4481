import NetLab.Fault
import NetLab.Network.Basic

set_option autoImplicit false

/-!
# Ports

The ports of a device are its links, sorted by link id and numbered from 1.  Nothing of this is
stored: a new link whose id sorts earlier renames every later port of the device.  Links whose ids
cannot be compared have no order, and then the device has no ports that could be named.
-/

namespace NetLab.Port

/-! ## Names -/

/-- The name of the port with a number. -/
def nameOf (number : String) : String := "GigabitEthernet0/" ++ number

/-- The short name of the port with a number. -/
def shortNameOf (number : String) : String := "Gi0/" ++ number

/-- The name of the port at a position, counted from 0. -/
def name (i : Int) : String := nameOf (toString (i + 1))

/-- The short name of the port at a position, counted from 0. -/
def shortNameAt (i : Int) : String := shortNameOf (toString (i + 1))

/-- The number of the port at a position of any kind, if it can be counted on from there. -/
def numberAt : Value → Except Fault String
  | .int i => writeNumeral (i + 1)
  | .bool b => writeNumeral (if b then 2 else 1)
  | .float d => .ok (d.add (Double.ofInt 1)).display
  | _ => .error .wrongKind

/-- The name and the short name of the port at a position of any kind. -/
def namesAt (position : Value) : Except Fault (List String) :=
  (numberAt position).map fun number => [nameOf number, shortNameOf number]

/-- Replace every occurrence of `old`, from the left; `skip` characters are still part of the
last one. -/
def replaceFrom (old new : List Char) (skip : Nat) : List Char → List Char
  | [] => []
  | c :: r =>
    match skip with
    | k + 1 => replaceFrom old new k r
    | 0 =>
      if old.isPrefixOf (c :: r) then new ++ replaceFrom old new (old.length - 1) r
      else c :: replaceFrom old new 0 r

/-- Replace every occurrence of a text that is not empty. -/
def replaceAll (old new s : String) : String :=
  String.ofList (replaceFrom old.toList new.toList 0 s.toList)

/-- The short form of an interface name. -/
def shorten (ifname : String) : String :=
  replaceAll "FastEthernet" "Fa" (replaceAll "GigabitEthernet" "Gi" ifname)

/-- A letter of an interface type: an ASCII letter, or one of the four letters beyond ASCII whose
other case is one. -/
def isTypeLetter (c : Char) : Bool :=
  (0x41 ≤ c.toNat && c.toNat ≤ 0x5A) || (0x61 ≤ c.toNat && c.toNat ≤ 0x7A) ||
    [0x130, 0x131, 0x17F, 0x212A].contains c.toNat

/-- Write an interface type in full: letters that start with `g` or `f` stand for a type. -/
def expandType : List Char → List Char
  | [] => []
  | c :: r =>
    if c = 'g' || c = 'G' then "GigabitEthernet".toList ++ r.dropWhile isTypeLetter
    else if c = 'f' || c = 'F' then "FastEthernet".toList ++ r.dropWhile isTypeLetter
    else c :: r

/-- An interface name in full: `g0/1` and `gig0/1` are `GigabitEthernet0/1`. -/
def normalize (text : String) : String := String.ofList (expandType (Text.trim text).toList)

/-! ## Numbers -/

/-- The decimal digits at the end of a text, of which one final line break is no part. -/
def trailingDigits (cs : List Char) : List Char :=
  let backwards := match cs.reverse with
    | '\n' :: r => r
    | r => r
  (backwards.takeWhile Text.isDigit).reverse

/-- The position, counted from 0, that the number at the end of an interface name gives. -/
def position? (ifname : String) : Except Fault (Option Int) :=
  match trailingDigits ifname.toList with
  | [] => .ok none
  | ds => (readNumeral (String.ofList ds)).map fun n => some (n - 1)

/-- The position that a value gives as an interface name.  What is not given gives none. -/
def positionOf? : Value → Except Fault (Option Int)
  | .text s => position? s
  | v => if v.given then .error .wrongKind else .ok none

/-! ## Links -/

section

variable {ν : Type} [BEq ν]

/-- The links of a device in the order of its ports. -/
def sortedLinks (uid : ν) (links : List (Link ν)) : Except Fault (List (Link ν)) :=
  Value.sortBy (·.id) (links.filter (·.touches uid))

/-- The ports of a device with their links. -/
def map (uid : ν) (links : List (Link ν)) : Except Fault (List (String × Link ν)) := do
  return (← sortedLinks uid links).zipIdx.map fun p => (name p.2, p.1)

/-- The link at the port of a device whose number ends an interface name. -/
def linkFor? (uid : ν) (ifname : Value) (links : List (Link ν)) :
    Except Fault (Option (Link ν)) := do
  match ← positionOf? ifname with
  | some i => if i < 0 then return none else return (← sortedLinks uid links)[i.toNat]?
  | none => return none

end

end NetLab.Port
