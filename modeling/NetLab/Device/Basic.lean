import NetLab.Collection.Roster
import NetLab.Device.Interface
import NetLab.Device.Kind
import NetLab.Document.Order

set_option autoImplicit false

/-!
# Devices

A device of a topology with its whole configuration.  Label, host name, management address, domain
name, VLAN names and VLAN tag are values: a document or a direct edit may give anything there, and
it is kept.  Interfaces stand under the plain form of their names, in the order in which they were
made.
-/

namespace NetLab

/-- The name that a VLAN has until it is given one. -/
def defaultVlanName (vlan : Int) : String := "VLAN" ++ Text.zeroPadded 4 vlan

/-- The name of VLAN 1. -/
def firstVlanName : String := "default"

/-- A device. -/
structure Device where
  uid : String
  kind : Kind
  label : Value
  status : Status
  address : Value
  hostname : Value
  domainName : Value := .null
  vlans : Index Int Value := Index.empty.put 1 (.text firstVlanName)
  interfaces : Roster Value Interface := Roster.empty
  lines : Lines := {}
  routing : Bool := false
  /-- the VLAN tag that is shown for an end host; no packet is affected by it -/
  displayVlan : Value := .null
  deriving DecidableEq, Repr

namespace Device

/-- A new device.  It is labelled with its id unless it is given a label, and its host name is
its label. -/
def new (uid : String) (kind : Kind) (label address : Value) (status : Status) : Device :=
  let label := if label.given then label else .text uid
  { uid, kind, label, status, address, hostname := label }

instance : Inhabited Device := ⟨new "" .router .null .null .up⟩

/-- The VLAN table of the device can be changed. -/
def supportsVlans (d : Device) : Bool := d.kind.supportsVlans

/-- The name of a VLAN of the device.  VLAN 1 has one even if the table lacks it. -/
def vlanName? (d : Device) (vlan : Int) : Option Value :=
  match d.vlans.get? vlan with
  | some name => some name
  | none => if vlan = 1 then some (.text firstVlanName) else none

/-- The VLAN table with VLAN 1 in it. -/
def fullVlans (d : Device) : Index Int Value := d.vlans.putNew 1 (.text firstVlanName)

/-- The interface that the device keeps under a name. -/
def interface? (d : Device) (name : Value) : Except Fault (Option Interface) :=
  name.key.map d.interfaces.get?

/-- The device with an interface put under its name. -/
def putInterface (d : Device) (i : Interface) : Device :=
  { d with interfaces := d.interfaces.put i.key.plain i }

/-- The interfaces of the device, sorted by the names under which it keeps them. -/
def sortedInterfaces (d : Device) : Except Fault (List Interface) :=
  Value.sortBy (·.key) d.interfaces.values

/-- Some interface of the device is shut down. -/
def hasShutInterface (d : Device) : Bool := d.interfaces.values.any (·.shutdown.given)

end Device

end NetLab
