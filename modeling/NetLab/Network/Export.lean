import NetLab.Network.Basic

set_option autoImplicit false

/-!
# Networks as documents

A topology document holds every setting of every device, and the links with their ids.  The
number of the next automatic link id is not part of it.
-/

namespace NetLab

/-- The settings of an interface.  Its name is the key under which they stand. -/
def Interface.toDocument (i : Interface) : Value :=
  .record [
    ("description", i.description),
    ("ip", i.ip),
    ("mask", i.mask),
    ("shutdown", i.shutdown),
    ("switchportMode", i.mode.value),
    ("accessVlan", i.accessVlan),
    ("trunkAllowedVlans", i.trunkAllowed),
    ("nativeVlan", i.nativeVlan)]

/-- The settings of a terminal line. -/
def Line.toDocument (l : Line) : Value :=
  .record [("password", l.password), ("login", l.login)]

/-- A VLAN table: names by id. -/
def vlanDocument (t : Index Int Value) : Value :=
  .record (t.entries.map fun e => (toString e.1, e.2))

/-- The name of a field that stands for a value. -/
def Value.fieldName : Value → String
  | null => "null"
  | bool b => if b then "true" else "false"
  | v => v.display

/-- An interface table: settings by name. -/
def interfaceDocument (t : Roster Value Interface) : Value :=
  .record (t.values.map fun i => (i.key.fieldName, i.toDocument))

/-- A device with all its settings. -/
def Device.toDocument (d : Device) : Value :=
  .record [
    ("id", .text d.uid),
    ("kind", .text d.kind.name),
    ("label", d.label),
    ("status", .text d.status.name),
    ("managementIp", d.address),
    ("hostname", d.hostname),
    ("domainName", d.domainName),
    ("ipRouting", .bool d.routing),
    ("displayVlanTag", d.displayVlan),
    ("vlanTable", vlanDocument d.vlans),
    ("interfaceTable", interfaceDocument d.interfaces),
    ("lines", .record (d.lines.toList.map fun e => (e.1.name, e.2.toDocument)))]

/-- A link with its ends. -/
def Link.toDocument (l : Link String) : Value :=
  .record [("id", l.id), ("sourceId", .text l.source), ("targetId", .text l.target)]

/-- A whole topology. -/
def Network.toDocument (n : Network) : Value :=
  .record [
    ("devices", .list (n.devices.values.map Device.toDocument)),
    ("links", .list (n.links.values.map Link.toDocument))]

end NetLab
