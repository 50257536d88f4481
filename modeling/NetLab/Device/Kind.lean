set_option autoImplicit false

/-!
# Kinds and states of devices

Thirteen kinds of device can be placed in a topology.  Switches carry VLAN tables; routers, layer
3 switches and firewalls pass packets between subnets; PCs, printers and servers are the end
hosts to which a switch port gives a VLAN tag.
-/

namespace NetLab

/-- A kind of device. -/
inductive Kind where
  | router
  | switchL2
  | switchL3
  | firewall
  | pc
  | laptop
  | server
  | accessPoint
  | printer
  | phone
  | hub
  | internet
  | sdwanEdge
  deriving DecidableEq, Repr, Inhabited

namespace Kind

/-- All kinds. -/
def all : List Kind :=
  [router, switchL2, switchL3, firewall, pc, laptop, server, accessPoint, printer, phone, hub,
   internet, sdwanEdge]

/-- The name of a kind in documents. -/
def name : Kind → String
  | router => "ROUTER"
  | switchL2 => "SWITCH_L2"
  | switchL3 => "SWITCH_L3"
  | firewall => "FIREWALL"
  | pc => "PC"
  | laptop => "LAPTOP"
  | server => "SERVER"
  | accessPoint => "ACCESS_POINT"
  | printer => "PRINTER"
  | phone => "PHONE"
  | hub => "HUB"
  | internet => "INTERNET"
  | sdwanEdge => "SDWAN_EDGE"

/-- The kind of that name. -/
def ofName? (s : String) : Option Kind := all.find? fun k => k.name == s

/-- Devices of this kind keep a VLAN table that can be changed. -/
def supportsVlans : Kind → Bool
  | switchL2 | switchL3 => true
  | _ => false

/-- Devices of this kind pass packets from one subnet to another. -/
def routes : Kind → Bool
  | router | switchL3 | firewall => true
  | _ => false

/-- Devices of this kind take the VLAN tag of the switch port they are joined to. -/
def isEndHost : Kind → Bool
  | pc | printer | server => true
  | _ => false

end Kind

/-- The state of a device. -/
inductive Status where
  | up
  | down
  | booting
  deriving DecidableEq, Repr, Inhabited

namespace Status

/-- The name of a state in documents. -/
def name : Status → String
  | up => "up"
  | down => "down"
  | booting => "booting"

/-- The state of that name. -/
def ofName? (s : String) : Option Status := [up, down, booting].find? fun x => x.name == s

end Status

end NetLab
