import NetLab.Port

set_option autoImplicit false

/-!
# What `show` prints

The tables and the configuration text of a device, each a list of lines.
-/

namespace NetLab.Show

/-- Lines as one output. -/
def output (lines : List String) : String := "\n".intercalate lines

/-! ## Version -/

/-- The software and its image. -/
def version : String :=
  "Cisco IOS Software, 15.2(4)E\nSystem image file is \"flash:C2960-LANBASEK9-M.bin\""

/-! ## Running configuration -/

/-- A line that is there if a value is given. -/
def givenLine (start : String) (v : Value) : List String :=
  if v.given then [start ++ v.display] else []

/-- The VLANs of a table, VLAN 1 only if it was renamed. -/
def vlanLines (t : Index Int Value) : List String :=
  t.entries.flatMap fun e =>
    if e.1 = 1 && e.2 = .text firstVlanName then []
    else ["vlan " ++ toString e.1, " name " ++ e.2.display, "!"]

/-- A line that tells a VLAN other than VLAN 1. -/
def vlanLine (start : String) (vlan : Value) : List String :=
  if vlan.equals (.int 1) then [] else [start ++ vlan.display]

/-- How an interface treats VLAN tags. -/
def portLines (i : Interface) : List String :=
  match i.mode with
  | .access => " switchport mode access" :: vlanLine " switchport access vlan " i.accessVlan
  | .trunk =>
    " switchport mode trunk" :: vlanLine " switchport trunk native vlan " i.nativeVlan ++
      [" switchport trunk allowed vlan " ++ i.trunkAllowed.display]
  | _ => [" switchport mode dynamic auto"]

/-- An interface of the configuration. -/
def interfaceLines (i : Interface) : List String :=
  ["interface " ++ i.key.display] ++ givenLine " description " i.description ++ portLines i ++
    (if i.ip.given then [" ip address " ++ i.ip.display ++ " " ++ i.mask.display] else []) ++
    (if i.shutdown.given then [" shutdown"] else []) ++ ["!"]

/-- A terminal line of the configuration; one that nobody configured is left out. -/
def lineLines (header : String) : Option Line → List String
  | none => []
  | some l =>
    if l.password = .null && !l.login.given then []
    else
      [header] ++ givenLine " password " l.password ++
        (if l.login.given then [" login"] else []) ++ ["!"]

/-- The configuration of a device. -/
def runningConfig (d : Device) : Except Fault (List String) := do
  let interfaces ← d.sortedInterfaces
  return ["Building configuration...", "", "version 15.2", "hostname " ++ d.hostname.display] ++
    givenLine "ip domain-name " d.domainName ++ (if d.routing then ["ip routing"] else []) ++
    ["!"] ++ vlanLines d.vlans ++ interfaces.flatMap interfaceLines ++
    lineLines "line con 0" d.lines.console ++ lineLines "line vty 0 4" d.lines.vty ++ ["end"]

/-! ## VLANs -/

/-- The interface is an access port of a VLAN. -/
def isMember (vlan : Int) (i : Interface) : Bool :=
  i.mode = .access && i.accessVlan.equals (.int vlan)

/-- The short names of the access ports of a VLAN, sorted.  A name that is no text has no short
form. -/
def vlanMembers (d : Device) (vlan : Int) : Except Fault (List String) := do
  let names ← (d.interfaces.values.filter (isMember vlan)).mapM (·.name.strictText)
  return (names.map Port.shorten).mergeSort fun a b => decide (a ≤ b)

/-- The row of a VLAN. -/
def vlanRow (d : Device) (vlan : Int) (name : Value) : Except Fault String := do
  let members ← vlanMembers d vlan
  let shown ← name.column 32
  return Text.trimRight (Text.padRight 4 (toString vlan) ++ " " ++ shown ++ " active    " ++
    ", ".intercalate members)

/-- The VLANs of a device with their access ports. -/
def vlanBrief (d : Device) : Except Fault (List String) := do
  let rows ← d.fullVlans.entries.mapM fun e => vlanRow d e.1 e.2
  return ["VLAN Name                             Status    Ports",
    "---- -------------------------------- --------- -------------------------------"] ++ rows

/-! ## Interfaces -/

/-- The names of the interface table: the ports in their order, then what else is configured. -/
def interfaceNames (d : Device) (links : List (Link String)) : Except Fault (List Value) := do
  let ports := (← Port.map d.uid links).map fun p => Value.text p.1
  let others ← Value.sortBy id ((d.interfaces.values.map (·.key)).filter fun name =>
    !ports.contains name)
  return ports ++ others

/-- A row of the interface table. -/
def interfaceRow (name ip : Value) (manual shut : Bool) : Except Fault String := do
  let called ← name.column 22
  let shown ← ip.column 15
  return called ++ " " ++ shown ++ " YES " ++
    Text.padRight 6 (if manual then "manual" else "unset") ++ " " ++
    Text.padRight 20 (if shut then "admin down" else "up") ++ " " ++
    (if shut then "down" else "up")

/-- The row of the interface or port of a name. -/
def rowOf (d : Device) (name : Value) : Except Fault String := do
  match ← d.interface? name with
  | some i =>
    interfaceRow name (if i.ip.given then i.ip else .text "unassigned") i.ip.given
      i.shutdown.given
  | none => interfaceRow name (.text "unassigned") false false

/-- The only row of a device without links and interfaces. -/
def placeholderRow : String :=
  Text.padRight 22 (Port.name 0) ++ " " ++ Text.padRight 15 "unassigned" ++ " YES " ++
    Text.padRight 6 "unset" ++ " " ++ Text.padRight 20 "up" ++ " down"

/-- The ports and interfaces of a device. -/
def interfaceBrief (d : Device) (links : List (Link String)) : Except Fault (List String) := do
  let heading := "Interface              IP-Address      OK? Method Status                Protocol"
  match ← interfaceNames d links with
  | [] => return [heading, placeholderRow]
  | names => return heading :: (← names.mapM (rowOf d))

end NetLab.Show
