import NetLab.Device.Basic
import NetLab.Text.Case

set_option autoImplicit false

/-!
# Networks

A network is the devices and links of a topology, each in the order in which they came, and the
number from which the next link without an id is named.  Ids of devices are taken without the
blanks around them.  A link may be given any id that can be a key, and stands under its plain form.
An operation that fails gives no network back, so it cannot have changed anything.
-/

namespace NetLab

/-- A cable between two devices, which are named by values of a type. -/
structure Link (ν : Type) where
  id : Value
  source : ν
  target : ν
  deriving DecidableEq, Repr, Inhabited

namespace Link

variable {ν : Type} [BEq ν]

/-- The device is one of the two ends. -/
def touches (l : Link ν) (uid : ν) : Bool := l.source == uid || l.target == uid

/-- The end opposite to a device. -/
def other (l : Link ν) (uid : ν) : ν := if l.source == uid then l.target else l.source

/-- The id of the link that is named by a number. -/
def autoId (n : Nat) : String := "L" ++ toString n

end Link

/-- The devices and links of a topology. -/
structure Network where
  devices : Roster String Device
  links : Roster Value (Link String)
  /-- the number of the next link that is named by a number -/
  nextLink : Nat
  deriving DecidableEq, Repr

namespace Network

/-- The network without devices. -/
def empty : Network := ⟨Roster.empty, Roster.empty, 1⟩

instance : Inhabited Network := ⟨empty⟩

/-! ## Devices -/

/-- The device of that id, if there is one. -/
def device? (n : Network) (uid : String) : Option Device := n.devices.get? (Text.trim uid)

/-- The device of that id. -/
def device (n : Network) (uid : String) : Except Fault Device :=
  match n.device? uid with
  | some d => .ok d
  | none => .error (.unknownDevice (Text.trim uid))

/-- Change the device of that id. -/
def update (n : Network) (uid : String) (f : Device → Device) : Except Fault Network :=
  match n.device? uid with
  | some _ => .ok { n with devices := n.devices.modify (Text.trim uid) f }
  | none => .error (.unknownDevice (Text.trim uid))

/-- What is said of a device when it is added. -/
structure Entry where
  uid : String
  kind : Value
  label : Value := .null
  address : Value := .null
  status : Value := .text "up"
  deriving Repr, Inhabited

/-- The kind that a value names: case and surrounding blanks do not matter. -/
def readKind (v : Value) : Except Fault Kind := do
  let name := Text.upper (Text.trim (← v.line))
  match Kind.ofName? name with
  | some k => return k
  | none => throw (.unknownKind (Text.quoted name))

/-- The state that a value names. -/
def readStatus (v : Value) : Except Fault Status :=
  match v with
  | .text s =>
    match Status.ofName? s with
    | some x => .ok x
    | none => .error (.unknownStatus v.quoted)
  | _ => .error (.unknownStatus v.quoted)

/-- Add a device.  An id that is taken gives the device that has it. -/
def addDevice (n : Network) (e : Entry) : Except Fault (Device × Network) := do
  let uid := Text.trim e.uid
  if uid = "" then throw .emptyDeviceId
  let kind ← readKind e.kind
  let status ← readStatus e.status
  match n.devices.get? uid with
  | some d => return (d, n)
  | none =>
    let d := Device.new uid kind e.label e.address status
    return (d, { n with devices := n.devices.put uid d })

/-- Remove a device and every link that ends at it. -/
def removeDevice (n : Network) (uid : String) : Network :=
  let uid := Text.trim uid
  if n.devices.contains uid then
    { n with
      devices := n.devices.erase uid
      links := n.links.filter fun _ l => !l.touches uid }
  else n

/-- Forget the device of an id, which is taken as it stands, and keep the links that end at it.  The
result is whether it was there.  Where there is no device at all, what is no id is not noticed. -/
def dropDevice (n : Network) (uid : Value) : Except Fault (Bool × Network) := do
  if n.devices.size = 0 then return (false, n)
  match ← uid.textKey with
  | none => return (false, n)
  | some uid => return (n.devices.contains uid, { n with devices := n.devices.erase uid })

/-- The first device with that management address; no device has an empty one. -/
def deviceByAddress (n : Network) (ip : Value) : Option Device :=
  n.devices.values.find? fun d => d.address.given && d.address.equals ip

/-! ## Links -/

/-- The first number from `k` on whose link id is free, if one of the first `tries` is. -/
def freeNumber (taken : String → Bool) : Nat → Nat → Nat
  | 0, k => k
  | tries + 1, k => if taken (Link.autoId k) then freeNumber taken tries (k + 1) else k

/-- Name a link by the next free number, which is used up.  Ids of `reserved` are not free. -/
def takeLinkId (n : Network) (reserved : List String) : String × Network :=
  let taken := fun id => n.links.contains (.text id) || reserved.contains id
  let k := freeNumber taken (n.links.size + reserved.length) n.nextLink
  (Link.autoId k, { n with nextLink := k + 1 })

/-- Put a link under its id. -/
def putLink (n : Network) (l : Link String) : Network :=
  { n with links := n.links.put l.id.plain l }

/-- Join two devices.  A link without an id is named by the next free number. -/
def addLink (n : Network) (a b : String) (id : Value) : Except Fault (Value × Network) := do
  let a := Text.trim a
  let b := Text.trim b
  if !n.devices.contains a || !n.devices.contains b then throw .unknownEnd
  match id with
  | .null =>
    let (id, n) := n.takeLinkId []
    return (.text id, n.putLink ⟨.text id, a, b⟩)
  | id =>
    if n.links.contains (← id.key) then throw (.duplicateLink id.display)
    return (id, n.putLink ⟨id, a, b⟩)

/-- Remove a link.  Where there is no link at all, what is no id is not noticed. -/
def removeLink (n : Network) (id : Value) : Except Fault Network := do
  if n.links.size = 0 then return n
  return { n with links := n.links.erase (← id.key) }

/-- The links that end at a device. -/
def linksFor (n : Network) (uid : String) : List (Link String) :=
  n.links.values.filter (·.touches (Text.trim uid))

/-- Some interface at either end of the link is shut down, whether or not the link runs over
it. -/
def linkIsDown (n : Network) (id : Value) : Except Fault Bool := do
  match n.links.get? (← id.key) with
  | none => throw (.missingKey id.display)
  | some l => return [l.source, l.target].any fun uid =>
      (n.devices.get? uid).any (·.hasShutInterface)

end Network

end NetLab
