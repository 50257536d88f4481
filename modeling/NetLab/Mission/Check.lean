import NetLab.Network.Basic

set_option autoImplicit false

/-!
# What missions look for

The tests from which the steps of missions are made.  They read kinds, management addresses, VLAN
tables, VLAN tags and links, and change nothing.
-/

namespace NetLab.Mission

/-- A test on a network.  It fails only on an address that is no text. -/
abbrev Check : Type := Network → Except Fault Bool

namespace Check

/-- The devices of a kind. -/
def ofKind (n : Network) (k : Kind) : List Device := n.devices.values.filter fun d => d.kind = k

/-- There are at least so many devices of a kind. -/
def hasAtLeast (n : Network) (count : Nat) (k : Kind) : Bool := count ≤ (ofKind n k).length

/-- Some device has all these VLANs. -/
def someVlans (n : Network) (vlans : List Int) : Bool :=
  n.devices.values.any fun d => vlans.all fun v => d.vlans.contains v

/-- Some device shows this VLAN tag. -/
def someTagged (n : Network) (vlan : Int) : Bool :=
  n.devices.values.any fun d => d.displayVlan.equals (.int vlan)

/-- The two kinds are the two given ones, in either order. -/
def arePair (a b x y : Kind) : Bool := (a = x && b = y) || (a = y && b = x)

/-- The number of links between devices of two different kinds. -/
def crossLinks (n : Network) (x y : Kind) : Nat :=
  (n.links.values.filter fun l =>
    match n.devices.get? l.source, n.devices.get? l.target with
    | some a, some b => arePair a.kind b.kind x y
    | _, _ => false).length

/-- A device has an address with this beginning. -/
def addressStarts (start : String) (d : Device) : Except Fault Bool :=
  match d.address with
  | .text s => .ok (s != "" && start.toList.isPrefixOf s.toList)
  | v => if v.given then .error .wrongShape else .ok false

/-! ## The steps -/

/-- A router, a layer 2 switch and two PCs, with three links. -/
def startupCabled : Check := fun n =>
  .ok (hasAtLeast n 1 .router && hasAtLeast n 1 .switchL2 && hasAtLeast n 2 .pc &&
    3 ≤ n.links.size)

/-- Two PCs with addresses in the office's subnet. -/
def startupAddressed : Check := fun n => do
  let inSubnet ← (ofKind n .pc).mapM (addressStarts "192.168.1.")
  return 2 ≤ inSubnet.count true

/-- A router with an address. -/
def startupGateway : Check := fun n => .ok ((ofKind n .router).any (·.address.given))

/-- A device with all these VLANs. -/
def vlans (vs : List Int) : Check := fun n => .ok (someVlans n vs)

/-- A layer 2 switch and two PCs. -/
def separationDevices : Check := fun n =>
  .ok (hasAtLeast n 2 .pc && hasAtLeast n 1 .switchL2)

/-- Hosts tagged with VLAN 10 and VLAN 20. -/
def separationPorts : Check := fun n => .ok (someTagged n 10 && someTagged n 20)

/-- Two switches of each layer. -/
def spineLeafDevices : Check := fun n =>
  .ok (hasAtLeast n 2 .switchL3 && hasAtLeast n 2 .switchL2)

/-- Four links between switches of different layers. -/
def spineLeafMesh : Check := fun n => .ok (4 ≤ crossLinks n .switchL3 .switchL2)

end Check

end NetLab.Mission
