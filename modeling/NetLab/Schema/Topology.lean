import NetLab.Device.Basic
import NetLab.Network.Export
import NetLab.Schema.Checked

set_option autoImplicit false

/-!
# The schema of topology documents

The types of a topology document that was read strictly, and how each is read and written back
with every field in place.
-/

namespace NetLab.Schema

/-! ## Interfaces and lines -/

/-- The settings of an interface. -/
structure InterfaceDoc where
  description : Option String
  ip : Option String
  mask : Option String
  shutdown : Bool
  mode : PortMode
  accessVlan : Int
  trunkAllowed : String
  nativeVlan : Int
  deriving DecidableEq, Repr, Inhabited

/-- The settings of a terminal line. -/
structure LineDoc where
  password : Option String
  login : Bool
  deriving DecidableEq, Repr, Inhabited

/-- The port mode of that name. -/
def pickMode (s : String) : Option PortMode := PortMode.ofValue? (.text s)

/-- A VLAN id. -/
def vlanId : Reader Int := integerWithin minVlan maxVlan

/-- Read the settings of an interface. -/
def interfaceDoc : Reader InterfaceDoc :=
  model "InterfaceDoc"
    ["description", "ip", "mask", "shutdown", "switchportMode", "accessVlan",
      "trunkAllowedVlans", "nativeVlan"]
    fun fs =>
      (Checked.ok InterfaceDoc.mk).and (field? "description" text fs)
        |>.and (field? "ip" text fs)
        |>.and (field? "mask" text fs)
        |>.and (defaulted "shutdown" false boolean fs)
        |>.and (defaulted "switchportMode" .access
          (oneOf "'access', 'trunk' or 'dynamic'" pickMode) fs)
        |>.and (defaulted "accessVlan" 1 vlanId fs)
        |>.and (defaulted "trunkAllowedVlans" allVlans text fs)
        |>.and (defaulted "nativeVlan" 1 vlanId fs)

/-- Read the settings of a terminal line. -/
def lineDoc : Reader LineDoc :=
  model "LineDoc" ["password", "login"] fun fs =>
    (Checked.ok LineDoc.mk).and (field? "password" text fs)
      |>.and (defaulted "login" false boolean fs)

/-- Read a table of lines.  The problem of a key comes before those of what stands under it. -/
def lineTable : Reader (List (LineName × LineDoc))
  | .object fs =>
    .all (fs.map fun f =>
      (((oneOf "'console' or 'vty'" LineName.ofName? (.text f.1)).under "[key]").map
        Prod.mk |>.and (lineDoc f.2)).under f.1)
  | _ => .complain .notRecord

/-! ## Devices -/

/-- A device with its settings. -/
structure DeviceDoc where
  id : String
  kind : Kind
  label : Option String
  status : Status
  address : Option String
  hostname : Option String
  domainName : Option String
  routing : Bool
  displayVlan : Option Int
  vlans : List (String × String)
  interfaces : List (String × InterfaceDoc)
  lines : List (LineName × LineDoc)
  deriving DecidableEq, Repr, Inhabited

/-- Read the kind of a device; case and surrounding blanks do not matter. -/
def deviceKind : Reader Kind := fun v =>
  (text v).andThen fun s =>
    match Kind.ofName? (Text.upper (Text.trim s)) with
    | some k => .ok k
    | none => .complain (.broken ("unknown device kind " ++ Text.quoted s))

/-- The text is a VLAN id; else what is wrong with it. -/
def vlanKeyFault (key : String) : Option String :=
  let outOfRange := "VLAN id out of range: " ++ Text.quoted key
  if key = "" || !key.toList.all Text.isDigitLike then some outOfRange
  else
    match readNumeral key with
    | .error f => some f.message
    | .ok n => if minVlan ≤ n && n ≤ maxVlan then none else some outOfRange

/-- Read a VLAN table.  The first key that is no VLAN id is the problem of the whole table. -/
def vlanTable : Reader (List (String × String)) := fun v =>
  (tableOf text v).andThen fun t =>
    match t.findSome? fun e => vlanKeyFault e.1 with
    | some rule => .complain (.broken rule)
    | none => .ok t

/-- Read a device. -/
def deviceDoc : Reader DeviceDoc :=
  model "DeviceDoc"
    ["id", "kind", "label", "status", "managementIp", "hostname", "domainName", "ipRouting",
      "displayVlanTag", "vlanTable", "interfaceTable", "lines"]
    fun fs =>
      (Checked.ok DeviceDoc.mk).and (required "id" nonemptyText fs)
        |>.and (required "kind" deviceKind fs)
        |>.and (field? "label" text fs)
        |>.and (defaulted "status" .up (oneOf "'up', 'down' or 'booting'" Status.ofName?) fs)
        |>.and (field? "managementIp" text fs)
        |>.and (field? "hostname" text fs)
        |>.and (field? "domainName" text fs)
        |>.and (defaulted "ipRouting" false boolean fs)
        |>.and (field? "displayVlanTag" integer fs)
        |>.and (defaulted "vlanTable" [("1", firstVlanName)] vlanTable fs)
        |>.and (defaulted "interfaceTable" [] (tableOf interfaceDoc) fs)
        |>.and (defaulted "lines" [] lineTable fs)

/-! ## Topologies -/

/-- A link with its ends. -/
structure LinkDoc where
  id : Option String
  source : String
  target : String
  deriving DecidableEq, Repr, Inhabited

/-- A whole topology. -/
structure TopologyDoc where
  devices : List DeviceDoc
  links : List LinkDoc
  deriving DecidableEq, Repr, Inhabited

/-- Read a link. -/
def linkDoc : Reader LinkDoc :=
  model "LinkDoc" ["id", "sourceId", "targetId"] fun fs =>
    (Checked.ok LinkDoc.mk).and (field? "id" text fs)
      |>.and (required "sourceId" text fs)
      |>.and (required "targetId" text fs)

/-- Read a topology. -/
def topologyDoc : Reader TopologyDoc :=
  model "TopologyDoc" ["devices", "links"] fun fs =>
    (Checked.ok TopologyDoc.mk).and (defaulted "devices" [] (listOf deviceDoc) fs)
      |>.and (defaulted "links" [] (listOf linkDoc) fs)

/-! ## Writing back -/

/-- The document of an interface. -/
def InterfaceDoc.toDocument (i : InterfaceDoc) : Value :=
  .record [
    ("description", .ofText? i.description),
    ("ip", .ofText? i.ip),
    ("mask", .ofText? i.mask),
    ("shutdown", .bool i.shutdown),
    ("switchportMode", i.mode.value),
    ("accessVlan", .int i.accessVlan),
    ("trunkAllowedVlans", .text i.trunkAllowed),
    ("nativeVlan", .int i.nativeVlan)]

/-- The document of a terminal line. -/
def LineDoc.toDocument (l : LineDoc) : Value :=
  .record [("password", .ofText? l.password), ("login", .bool l.login)]

/-- The document of a device. -/
def DeviceDoc.toDocument (d : DeviceDoc) : Value :=
  .record [
    ("id", .text d.id),
    ("kind", .text d.kind.name),
    ("label", .ofText? d.label),
    ("status", .text d.status.name),
    ("managementIp", .ofText? d.address),
    ("hostname", .ofText? d.hostname),
    ("domainName", .ofText? d.domainName),
    ("ipRouting", .bool d.routing),
    ("displayVlanTag", .ofInt? d.displayVlan),
    ("vlanTable", .object (d.vlans.map fun e => (e.1, .text e.2))),
    ("interfaceTable", .object (d.interfaces.map fun e => (e.1, e.2.toDocument))),
    ("lines", .object (d.lines.map fun e => (e.1.name, e.2.toDocument)))]

/-- The document of a link. -/
def LinkDoc.toDocument (l : LinkDoc) : Value :=
  .record [("id", .ofText? l.id), ("sourceId", .text l.source), ("targetId", .text l.target)]

/-- The document of a topology. -/
def TopologyDoc.toDocument (t : TopologyDoc) : Value :=
  .record [
    ("devices", .list (t.devices.map DeviceDoc.toDocument)),
    ("links", .list (t.links.map LinkDoc.toDocument))]

end NetLab.Schema
