import NetLab.Network.Basic

set_option autoImplicit false

/-!
# Networks from documents

A topology document is read leniently: what it leaves out gets its default, and values of another
kind are taken as well as they can be.  Reading stops at the first value that cannot be taken;
what was read before it stays.
-/

namespace NetLab

/-- Reading that fills in a state and may stop at a fault; the state is kept. -/
abbrev Reading (σ α : Type) : Type := ExceptT Fault (StateM σ) α

namespace Reading

variable {σ τ α : Type}

/-- Read one part of a state. -/
def part (get : σ → τ) (set : τ → σ → σ) (r : Reading τ α) : Reading σ α :=
  ExceptT.mk fun s =>
    let (result, t) := r.run (get s)
    (result, set t s)

/-- A result that needs no state. -/
def lift (x : Except Fault α) : Reading σ α := ExceptT.mk fun s => (x, s)

end Reading

/-- The fields of a record in a document. -/
abbrev Fields : Type := List (String × Value)

/-- The field that a record must have. -/
def Fields.required (name : String) (fs : Fields) : Except Fault Value :=
  match Value.field? name fs with
  | some v => .ok v
  | none => .error (.missingKey name)

/-! ## Parts of a device -/

/-- A whole number.  If it is left out, what is set is taken as one. -/
def Fields.intOr (name : String) (set : Value) (fs : Fields) : Except Fault Value :=
  (((Value.field? name fs).getD set).toInt).map .int

/-- Read the settings of an interface.  What is left out stays as it is set, as far as it can be
taken for what stands there; a port mode that is none keeps the one that is set. -/
def Interface.read (fs : Fields) : Reading Interface Unit := do
  modify fun i => { i with
    description := Value.field "description" fs
    ip := Value.field "ip" fs
    mask := Value.field "mask" fs
    shutdown := .bool ((Value.field? "shutdown" fs).getD i.shutdown).given
    mode := ((Value.field? "switchportMode" fs).bind PortMode.ofValue?).getD i.mode }
  let vlan ← Reading.lift (fs.intOr "accessVlan" (← get).accessVlan)
  modify fun i => { i with accessVlan := vlan }
  let trunk := Value.field "trunkAllowedVlans" fs
  modify fun i => { i with
    trunkAllowed := .text (if trunk.given then trunk else i.trunkAllowed).display }
  let vlan ← Reading.lift (fs.intOr "nativeVlan" (← get).nativeVlan)
  modify fun i => { i with nativeVlan := vlan }

/-- Read the interface of a device that stands under a name, which is made if it is new. -/
def Device.readInterface (name : String) (fs : Fields) : Reading Device Unit :=
  Reading.part (fun d => (d.interfaces.get? (.text name)).getD { key := .text name })
    (fun i d => d.putInterface i) (Interface.read fs)

/-- Read every interface that is a record. -/
def Device.readInterfaces : Fields → Reading Device Unit
  | [] => pure ()
  | (name, .object fs) :: rest => do readInterface name fs; readInterfaces rest
  | _ :: rest => readInterfaces rest

/-- A terminal line. -/
def Line.ofFields (fs : Fields) : Line :=
  { password := Value.field "password" fs, login := .bool (Value.field "login" fs).given }

/-- The lines, with every line that is a record and has a line's name read. -/
def Lines.read (t : Lines) (fs : Fields) : Lines :=
  fs.foldl (fun t f =>
    match LineName.ofName? f.1, f.2 with
    | some name, .object line => t.set name (some (Line.ofFields line))
    | _, _ => t) t

/-- The VLAN table that a record describes; a later entry wins over an earlier one of its id. -/
def readVlans : Fields → Index Int Value → Except Fault (Index Int Value)
  | [], t => .ok t
  | (k, v) :: rest, t => do readVlans rest (t.put (← readNumeral k) (.text v.display))

/-- Read the VLAN table if it is a record.  VLAN 1 is always there. -/
def Device.readVlanTable : Value → Reading Device Unit
  | .object fs => do
    let t ← Reading.lift (readVlans fs Index.empty)
    modify fun d => { d with vlans := t.putNew 1 (.text firstVlanName) }
  | _ => modify fun d => { d with vlans := d.fullVlans }

/-- Read the settings of a device. -/
def Device.read (fs : Fields) : Reading Device Unit := do
  let hostname := Value.field "hostname" fs
  modify fun d => { d with
    address := (Value.field "managementIp" fs).ifGiven
    hostname := if hostname.given then .text hostname.display else d.hostname
    domainName := (Value.field "domainName" fs).ifGiven
    routing := (Value.field "ipRouting" fs).given }
  let tag := Value.field "displayVlanTag" fs
  let vlan ← Reading.lift (if tag = .null then .ok .null else tag.toInt.map .int)
  modify fun d => { d with displayVlan := vlan }
  readVlanTable (Value.field "vlanTable" fs)
  match Value.field "interfaceTable" fs with
  | .object is => readInterfaces is
  | _ => pure ()
  match Value.field "lines" fs with
  | .object ls => modify fun d => { d with lines := d.lines.read ls }
  | _ => pure ()

namespace Network

/-! ## Devices and links -/

/-- What a record says of a device when it is added. -/
def Entry.ofFields (fs : Fields) : Except Fault Entry := do
  let id ← fs.required "id"
  let kind := Value.field "kind" fs
  let status := Value.field "status" fs
  return {
    uid := id.display
    kind := .text (if kind.given then kind.display else "")
    label := (Value.field "label" fs).ifGiven
    status := if status.given then status else .text "up" }

/-- Read a device, which is added if it is new.  The result is its id. -/
def readDevice (fs : Fields) : Reading Network String := do
  let entry ← Reading.lift (Entry.ofFields fs)
  let (d, n) ← Reading.lift ((← get).addDevice entry)
  set n
  Reading.part (fun n => (n.devices.get? d.uid).getD d)
    (fun d n => { n with devices := n.devices.put d.uid d }) (Device.read fs)
  return d.uid

/-- Read every device that has an id. -/
def readDevices : List Fields → Reading Network Unit
  | [] => pure ()
  | fs :: rest => do
    if (Value.field "id" fs).given then discard (readDevice fs)
    readDevices rest

/-- Read a link.  One without an id is named by a number on which no explicit id lies. -/
def readLink (reserved : List String) (fs : Fields) : Reading Network Unit := do
  let given := Value.field "id" fs
  let id ←
    if given.given then pure given.display
    else
      let (id, n) := (← get).takeLinkId reserved
      set n
      pure id
  let source ← Reading.lift (fs.required "sourceId")
  let target ← Reading.lift (fs.required "targetId")
  let (_, n) ← Reading.lift ((← get).addLink source.display target.display (.text id))
  set n

/-- Read links in order. -/
def readLinks (reserved : List String) : List Fields → Reading Network Unit
  | [] => pure ()
  | fs :: rest => do readLink reserved fs; readLinks reserved rest

/-- The explicit link ids. -/
def explicitIds (links : List Fields) : List String :=
  links.filterMap fun fs =>
    let id := Value.field "id" fs
    if id.given then some id.display else none

/-- Replace the whole network by what a document describes. -/
def read (doc : Value) : Reading Network Unit := do
  set empty
  match doc with
  | .object fs => do
    readDevices (← Reading.lift (Value.field "devices" fs).records)
    let links ← Reading.lift (Value.field "links" fs).records
    readLinks (explicitIds links) links
  | _ => throw .wrongShape

/-- Replace the network by a document's; on a fault, what was read before it stays. -/
def importDocument (n : Network) (doc : Value) : Except Fault Unit × Network :=
  (read doc).run n

/-- Add a device from a document, or change the one that has its id.  The result is its id. -/
def importDevice (n : Network) (doc : Value) : Except Fault String × Network :=
  match doc with
  | .object fs => (readDevice fs).run n
  | _ => (.error .wrongKind, n)

/-- The network that a document describes. -/
def ofDocument (doc : Value) : Except Fault Network :=
  match empty.importDocument doc with
  | (.ok _, n) => .ok n
  | (.error e, _) => .error e

end Network

end NetLab
