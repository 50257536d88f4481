import NetLab.Mission.Check

set_option autoImplicit false

/-!
# The missions

The guided exercises, each a list of steps with a task, a hint and a test.
-/

namespace NetLab

namespace Mission

/-- A step of a mission. -/
structure Step where
  title : String
  task : String
  hint : String
  check : Check

instance : Inhabited Step := ⟨"", "", "", fun _ => .ok false⟩

end Mission

/-- A guided exercise. -/
structure Mission where
  id : Int
  title : String
  difficulty : String
  description : String
  steps : List Mission.Step
  deriving Inhabited

namespace Mission

/-- A small office: cables, addresses, a gateway and a VLAN. -/
def startupOffice : Mission where
  id := 1
  title := "Mission 1: The Startup Office"
  difficulty := "Novice"
  description := "A new startup 'TechNova' needs their office network set up. They have 1 Router, 1 Switch, and 2 PCs."
  steps := [
    { title := "Physical Connectivity"
      task := "Connect: Router -> Switch -> Both PCs. Ensure all links are connected."
      hint := "Add a Router, a Switch (L2), and 2 PCs, then link them."
      check := Check.startupCabled },
    { title := "IP Addressing"
      task := "Assign IP addresses to both PCs in the same subnet (e.g., 192.168.1.10 and 192.168.1.11)."
      hint := "Set each PC's management IP to an address like 192.168.1.10."
      check := Check.startupAddressed },
    { title := "Gateway Configuration"
      task := "Configure the Router's IP to be the Gateway (e.g., 192.168.1.1)."
      hint := "Set the Router's IP to 192.168.1.1. This acts as the exit door for the network."
      check := Check.startupGateway },
    { title := "VLAN Setup (Bonus)"
      task := "Use the CLI on the Switch to create VLAN 10."
      hint := "Switch CLI: 'enable' -> 'conf t' -> 'vlan 10'."
      check := Check.vlans [10] }]

/-- Two departments kept apart by VLANs. -/
def departmentSeparation : Mission where
  id := 2
  title := "Mission 2: Department Separation"
  difficulty := "Hard"
  description := "Separate the Sales and Engineering departments using VLANs. They shouldn't be in the same broadcast domain."
  steps := [
    { title := "Setup Devices"
      task := "Place a Switch and 2 PCs. One for Sales, one for Eng."
      hint := "Add a Switch (L2) and two PCs."
      check := Check.separationDevices },
    { title := "VLAN Configuration"
      task := "Configure VLAN 10 (Sales) and VLAN 20 (Eng) on the switch using CLI."
      hint := "CLI: 'vlan 10', then 'name Sales', then 'exit'. Do the same for 'vlan 20'."
      check := Check.vlans [10, 20] },
    { title := "Assign Ports"
      task := "Assign PC1 to VLAN 10 and PC2 to VLAN 20 using interface commands."
      hint := "CLI: 'int g0/1' -> 'switchport access vlan 10'. Check which port corresponds to which PC by looking at the cables."
      check := Check.separationPorts }]

/-- A spine and leaf topology. -/
def dataCenter : Mission where
  id := 3
  title := "Mission 3: Data Center Ops"
  difficulty := "Pro"
  description := "Build a Spine-Leaf topology. Redundancy is key."
  steps := [
    { title := "Spine & Leaf"
      task := "Deploy 2 L3 Switches (Spines) and 2 L2 Switches (Leaves)."
      hint := "Add two L3 switches and two L2 switches."
      check := Check.spineLeafDevices },
    { title := "Full Mesh Cabling"
      task := "Connect every Leaf to every Spine. (2 Leaves x 2 Spines = 4 Links)."
      hint := "Link Leaf 1 to Spine 1 & 2, and Leaf 2 to Spine 1 & 2."
      check := Check.spineLeafMesh }]

/-- All missions, by number. -/
def all : List Mission := [startupOffice, departmentSeparation, dataCenter]

/-- The mission of that number. -/
def ofId? (id : Int) : Option Mission := all.find? fun m => m.id = id

/-- The mission that a value names: a number, or a text that writes one. -/
def ofValue (v : Value) : Except Fault Mission :=
  match v.toInt with
  | .error .wrongKind => .error .wrongKind
  | .error .infiniteNumber => .error .infiniteNumber
  | .error _ => .error (.unknownMission v.display)
  | .ok id =>
    match ofId? id with
    | some m => .ok m
    | none => .error (.unknownMission v.display)

end Mission

end NetLab
