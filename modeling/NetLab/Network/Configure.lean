import NetLab.Network.Basic

set_option autoImplicit false

/-!
# Configuring devices

The settings of a device, each changed by one operation.  Operations on a VLAN table may be
rejected: the device has none, the id is out of range, or VLAN 1 was to be deleted.  A VLAN may be
asked for by a value of any kind (`setVlanOf`, `removeVlanOf`); whole numbers and truth values are
ids, and other values are settled as far as they can be compared with one.
-/

namespace NetLab

/-- Why a VLAN table was not changed. -/
inductive Rejection where
  /-- the device keeps no VLAN table that can be changed -/
  | unsupported
  /-- no VLAN has this id -/
  | outOfRange
  /-- VLAN 1 cannot be deleted -/
  | firstVlan
  deriving DecidableEq, Repr, Inhabited

namespace Rejection

/-- The word for a rejection. -/
def reason : Rejection → String
  | unsupported => "vlan_unsupported"
  | outOfRange | firstVlan => "invalid_vlan"

/-- What the device prints. -/
def message : Rejection → String
  | unsupported => "% Command rejected: Device does not support VLANs."
  | outOfRange => "% Invalid input detected at marker."
  | firstVlan => "% Default VLAN 1 may not be deleted."

end Rejection

namespace Network

/-! ## Interfaces and lines -/

/-- The interface of that name, which is made if the device lacks it. -/
def ensureInterface (n : Network) (uid : String) (name : Value) :
    Except Fault (Interface × Network) := do
  let d ← n.device uid
  match ← d.interface? name with
  | some i => return (i, n)
  | none =>
    let i : Interface := { key := name }
    let n ← n.update uid (·.putInterface i)
    return (i, n)

/-- Change an interface that was made before.  It stays under its name. -/
def editInterface (n : Network) (uid : String) (name : Value) (f : Interface → Interface) :
    Except Fault (Interface × Network) := do
  let d ← n.device uid
  match ← d.interface? name with
  | none => throw (.neverEnsured name.display d.uid)
  | some i =>
    let changed := { f i with key := i.key }
    let n ← n.update uid (·.putInterface changed)
    return (changed, n)

/-- Change a terminal line, which is made if the device lacks it. -/
def editLine (n : Network) (uid : String) (line : Value) (f : Line → Line) :
    Except Fault (Line × Network) := do
  let d ← n.device uid
  match LineName.ofValue? line with
  | none => throw (.unknownLine line.quoted)
  | some name =>
    let changed := f ((d.lines.get? name).getD {})
    let n ← n.update uid fun d => { d with lines := d.lines.set name (some changed) }
    return (changed, n)

/-! ## VLANs -/

/-- The name that the VLAN of a number has until it is given one: truth values count as 1 and 0,
and other values number no VLAN. -/
def defaultVlanNameOf : Value → Except Fault String
  | .int vlan => .ok (defaultVlanName vlan)
  | .bool b => .ok (defaultVlanName (if b then 1 else 0))
  | .float _ => .error (.notWhole "float")
  | .text _ => .error (.notWhole "str")
  | _ => .error .wrongKind

/-- The VLAN table with a VLAN in it, which keeps its name unless it is given another. -/
def writeVlan (vlan : Int) (name : Value) (t : Index Int Value) : Index Int Value :=
  let t := (t.putNew 1 (.text firstVlanName)).putNew vlan (.text (defaultVlanName vlan))
  if name.given then t.put vlan name else t

/-- Create a VLAN or rename it. -/
def setVlan (n : Network) (uid : String) (vlan : Int) (name : Value) :
    Except Fault (Except Rejection Network) := do
  let d ← n.device uid
  if !d.supportsVlans then return .error .unsupported
  if vlan < minVlan || maxVlan < vlan then return .error .outOfRange
  let n ← n.update uid fun d => { d with vlans := writeVlan vlan name d.vlans }
  return .ok n

/-- A double is out of the range of VLAN ids.  Nothing is said of the undefined number. -/
def isOutOfRange (d : Double) : Bool :=
  d.lt (Double.exactly minVlan) || (Double.exactly maxVlan).lt d

/-- Create a VLAN or rename it, where a double asks for it.  A double is the id of a VLAN of the
table if it is the same number, but it has no name to give to a new one; VLAN 1 is put into the
table before that is noticed. -/
def setVlanAt (n : Network) (uid : String) (number : Double) (name : Value) :
    Except Fault (Option Rejection) × Network :=
  let withVlans := fun f : Device → Index Int Value =>
    { n with devices := n.devices.modify (Text.trim uid) fun d => { d with vlans := f d } }
  match n.device uid with
  | .error f => (.error f, n)
  | .ok d =>
    if !d.supportsVlans then (.ok (some .unsupported), n)
    else if isOutOfRange number then (.ok (some .outOfRange), n)
    else
      match number.toInt?.filter d.fullVlans.contains with
      | some vlan => (.ok none, withVlans fun d => writeVlan vlan name d.vlans)
      | none => (.error (.notWhole "float"), withVlans Device.fullVlans)

/-- Create a VLAN or rename it, where a value asks for it.  The result is why the table was not
changed, if it was not; the network is given back also on a fault. -/
def setVlanOf (n : Network) (uid : String) (vlan name : Value) :
    Except Fault (Option Rejection) × Network :=
  let set := fun vlan => match n.setVlan uid vlan name with
    | .ok (.ok n) => (.ok none, n)
    | .ok (.error r) => (.ok (some r), n)
    | .error f => (.error f, n)
  match vlan with
  | .int vlan => set vlan
  | .bool b => set (if b then 1 else 0)
  | .float d => n.setVlanAt uid d name
  | _ =>
    match n.device uid with
    | .error f => (.error f, n)
    | .ok d => (if d.supportsVlans then .error .wrongKind else .ok (some .unsupported), n)

/-- Delete a VLAN other than VLAN 1. -/
def removeVlan (n : Network) (uid : String) (vlan : Int) :
    Except Fault (Except Rejection Network) := do
  let d ← n.device uid
  if !d.supportsVlans then return .error .unsupported
  if vlan = 1 then return .error .firstVlan
  let n ← n.update uid fun d => { d with vlans := d.vlans.erase vlan }
  return .ok n

/-- Delete a VLAN other than VLAN 1, where a value asks for it.  A value that is the id of no VLAN
deletes none; what cannot be a key is not noticed if the table is empty. -/
def removeVlanOf (n : Network) (uid : String) (vlan : Value) :
    Except Fault (Except Rejection Network) := do
  let d ← n.device uid
  if !d.supportsVlans then return .error .unsupported
  match vlan.intKey with
  | .ok (some vlan) => n.removeVlan uid vlan
  | .ok none => return .ok n
  | .error f => if d.vlans.entries.isEmpty then return .ok n else throw f

/-! ## Single settings -/

/-- Name a device: its host name and its label. -/
def setHostname (n : Network) (uid : String) (name : Value) : Except Fault Network :=
  n.update uid fun d => { d with hostname := name, label := name }

/-- Turn routing on or off. -/
def setRouting (n : Network) (uid : String) (enabled : Bool) : Except Fault Network :=
  n.update uid fun d => { d with routing := enabled }

/-- Set or clear the management address, which may be anything. -/
def setAddress (n : Network) (uid : String) (ip : Value) : Except Fault Network :=
  n.update uid fun d => { d with address := ip.ifGiven }

/-- Set or clear the VLAN tag that is shown for an end host. -/
def setDisplayVlan (n : Network) (uid : String) (vlan : Value) : Except Fault Network :=
  n.update uid fun d => { d with displayVlan := vlan }

/-- Set the state of a device. -/
def setStatus (n : Network) (uid : String) (status : Value) : Except Fault Network := do
  let x ← readStatus status
  n.update uid fun d => { d with status := x }

/-- Set or clear the domain name. -/
def setDomainName (n : Network) (uid : String) (name : Value) : Except Fault Network :=
  n.update uid fun d => { d with domainName := name.ifGiven }

/-! ## Removals that no command makes -/

/-- Drop a VLAN from the table of a device, even VLAN 1.  The result is the name that it had.  A
value that is the id of no VLAN drops none; what cannot be a key is not noticed if the table is
empty. -/
def dropVlan (n : Network) (uid : String) (vlan : Value) :
    Except Fault (Option Value × Network) := do
  let d ← n.device uid
  if d.vlans.entries.isEmpty then return (none, n)
  match ← vlan.intKey with
  | none => return (none, n)
  | some vlan =>
    let n ← n.update uid fun d => { d with vlans := d.vlans.erase vlan }
    return (d.vlans.get? vlan, n)

/-- Drop a terminal line of a device.  The result is whether it was there.  A value that names no
line drops none; what cannot be a name is not noticed if the device has no line. -/
def dropLine (n : Network) (uid : String) (line : Value) : Except Fault (Bool × Network) := do
  let d ← n.device uid
  if d.lines.toList.isEmpty then return (false, n)
  match (← line.textKey).bind LineName.ofName? with
  | none => return (false, n)
  | some line =>
    let n ← n.update uid fun d => { d with lines := d.lines.set line none }
    return ((d.lines.get? line).isSome, n)

end Network

end NetLab
