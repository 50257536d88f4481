import NetLab.Network.Export

set_option autoImplicit false

/-!
# Looking at devices

What is read of a device, by its id.  A snapshot is the device as it stands at a moment, with VLAN 1
in its VLAN table, and what is done to the device afterwards does not reach it.
-/

namespace NetLab

/-- A device as it stands at a moment. -/
structure Snapshot where
  uid : String
  kind : Kind
  label : Value
  hostname : Value
  status : Status
  address : Value
  vlans : Index Int Value
  interfaces : Roster Value Interface
  displayVlan : Value
  deriving DecidableEq, Repr

/-- The device as it stands. -/
def Device.snapshot (d : Device) : Snapshot :=
  { uid := d.uid, kind := d.kind, label := d.label, hostname := d.hostname, status := d.status,
    address := d.address, vlans := d.fullVlans, interfaces := d.interfaces,
    displayVlan := d.displayVlan }

namespace Network

/-- The device of that id, as it stands. -/
def snapshot (n : Network) (uid : String) : Except Fault Snapshot :=
  (n.device uid).map Device.snapshot

/-- The devices as they stand, in their order. -/
def snapshots (n : Network) : List Snapshot := n.devices.values.map Device.snapshot

/-- The document of the device of that id. -/
def exportDevice (n : Network) (uid : String) : Except Fault Value :=
  (n.device uid).map Device.toDocument

end Network

end NetLab
