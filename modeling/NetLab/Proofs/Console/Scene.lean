import NetLab.Console.Run

set_option autoImplicit false

/-!
# Scenes and what commands do to them

Of all that a command can reach, a claim about configuration is about the network and about where
the session stands: its device, host name, place, whether it is closed, and when its device will
have booted (`Standing`).  The two together are a scene.

`Effect` lists what one command can make of a scene, one constructor for each way, with the mode
in which it can happen and the operation that it comes down to.  That commands do nothing else is
proved in `Proofs.Console.Dispatch`; every statement on what lines keep, change or never reach is a
case analysis on this list.
-/

namespace NetLab

/-! ## Scenes -/

/-- The part of a session that commands read and change, screen and history apart. -/
structure Standing where
  uid : String
  hostname : Value
  place : Place
  closed : Bool
  deadline : Option Double
  deriving DecidableEq, Repr

/-- Where a session stands. -/
def Session.standing (s : Session) : Standing :=
  { uid := s.uid, hostname := s.hostname, place := s.place, closed := s.closed,
    deadline := s.deadline }

/-- The mode of a session that stands so. -/
def Standing.mode (s : Standing) : Mode := s.place.mode

/-- A session that ends. -/
def Standing.close (s : Standing) : Standing := { s with closed := true, deadline := none }

/-- A session whose device has booted. -/
def Standing.boot (s : Standing) : Standing := { s with place := {}, deadline := none }

/-- A network and a session over it. -/
structure Scene where
  network : Network
  standing : Standing
  deriving DecidableEq, Repr

/-- What a command finds. -/
def Console.scene (c : Console) : Scene :=
  { network := c.network, standing := c.session.standing }

/-! ## Settings -/

/-- A command sets an interface in this way. -/
inductive Interface.IsSetting : (Interface → Interface) → Prop where
  | shutdown (down : Bool) : IsSetting fun i => { i with shutdown := .bool down }
  | portMode {name : String} (known : name ∈ PortMode.names) :
      IsSetting fun i => { i with mode := .ofName name }
  | accessVlan {vlan : Int} (low : minVlan ≤ vlan) (high : vlan ≤ maxVlan) :
      IsSetting fun i => { i with accessVlan := .int vlan }
  | trunkAllowed {list : String} (named : list ≠ "") :
      IsSetting fun i => { i with trunkAllowed := .text list }
  | nativeVlan {vlan : Int} (low : minVlan ≤ vlan) (high : vlan ≤ maxVlan) :
      IsSetting fun i => { i with nativeVlan := .int vlan }
  | address (ip mask : String) : IsSetting fun i => { i with ip := .text ip, mask := .text mask }
  | noAddress : IsSetting fun i => { i with ip := .null, mask := .null }
  | description (text : String) : IsSetting fun i => { i with description := .text text }
  | noDescription : IsSetting fun i => { i with description := .null }

/-- A command sets a terminal line in this way. -/
inductive Line.IsSetting : (Line → Line) → Prop where
  | password (text : String) : IsSetting fun l => { l with password := .text text }
  | noPassword : IsSetting fun l => { l with password := .null }
  | login (required : Bool) : IsSetting fun l => { l with login := .bool required }

/-- A mode can be left for another one that is about nothing in particular. -/
inductive Mode.LeadsTo : Mode → Mode → Prop where
  | leavePrivileged : LeadsTo .privileged .user
  | configure : LeadsTo .privileged .config
  | leaveConfig : LeadsTo .config .privileged
  | leaveSub {m : Mode} (sub : m.isExec = false) (inner : m ≠ .config) : LeadsTo m .config
  | finish {m : Mode} (configuring : m.isExec = false) : LeadsTo m .privileged

/-! ## Effects -/

/-- What one command can make of a scene. -/
inductive Effect (t : Timing) (s : Scene) : Scene → Prop where
  /-- something is shown, or nothing happens -/
  | look : Effect t s s
  /-- the device restarts; only the session knows of it -/
  | reload : Effect t s { s with standing.deadline := some (t.now.add t.bootDelay) }
  | enable (mode : s.standing.mode = .user) :
      Effect t s { s with standing.place.mode := .privileged }
  /-- the session goes to a mode that is about nothing in particular -/
  | enter {m : Mode} (leads : s.standing.mode.LeadsTo m) :
      Effect t s { s with standing.place := { mode := m } }
  | close (mode : s.standing.mode = .user) : Effect t s { s with standing := s.standing.close }
  /-- the device is named; the prompt follows -/
  | hostname {name : String} {n : Network} (mode : s.standing.mode = .config) (named : name ≠ "")
      (set : s.network.setHostname s.standing.uid (.text name) = .ok n) :
      Effect t s { network := n, standing := { s.standing with hostname := .text name } }
  | routing {enabled : Bool} {n : Network} (mode : s.standing.mode = .config)
      (set : s.network.setRouting s.standing.uid enabled = .ok n) :
      Effect t s { s with network := n }
  | domainName {name : String} {n : Network} (mode : s.standing.mode = .config)
      (set : s.network.setDomainName s.standing.uid (.text name) = .ok n) :
      Effect t s { s with network := n }
  | selectInterface {name : String} {i : Interface} {n : Network}
      (mode : s.standing.mode = .config ∨ s.standing.mode = .interface)
      (ensured : s.network.ensureInterface s.standing.uid (.text name) = .ok (i, n)) :
      Effect t s { network := n, standing := { s.standing with
        place := { mode := .interface, interface := .text name } } }
  | selectVlan {vlan : Int} {n : Network} (mode : s.standing.mode = .config)
      (set : s.network.setVlan s.standing.uid vlan .null = .ok (.ok n)) :
      Effect t s { network := n, standing := { s.standing with
        place := { mode := .vlan, vlan := .int vlan } } }
  | deleteVlan {vlan : Int} {n : Network} (mode : s.standing.mode = .config)
      (removed : s.network.removeVlan s.standing.uid vlan = .ok (.ok n)) :
      Effect t s { s with network := n }
  | selectLine (name : LineName) (mode : s.standing.mode = .config) :
      Effect t s { s with standing.place := { mode := .line, line := .text name.name } }
  | editInterface {f : Interface → Interface} {i : Interface} {n : Network}
      (mode : s.standing.mode = .interface) (setting : Interface.IsSetting f)
      (edited : s.network.editInterface s.standing.uid s.standing.place.interface f = .ok (i, n)) :
      Effect t s { s with network := n }
  /-- the access VLAN is set, and the end host at the port takes its tag -/
  | tagNeighbour {vlan : Int} {i : Interface} {n m : Network} {l : Link String} {d : Device}
      (mode : s.standing.mode = .interface) (low : minVlan ≤ vlan) (high : vlan ≤ maxVlan)
      (edited : s.network.editInterface s.standing.uid s.standing.place.interface
        (fun i => { i with accessVlan := .int vlan }) = .ok (i, n))
      (port : Port.linkFor? s.standing.uid s.standing.place.interface n.links.values = .ok (some l))
      (neighbour : n.devices.get? (l.other s.standing.uid) = some d)
      (host : d.kind.isEndHost = true)
      (tagged : n.setDisplayVlan d.uid (.int vlan) = .ok m) :
      Effect t s { s with network := m }
  | nameVlan {name : String} (mode : s.standing.mode = .vlan) (named : name ≠ "")
      (selected : s.standing.place.vlan ≠ .null) :
      Effect t s { s with network :=
        (s.network.setVlanOf s.standing.uid s.standing.place.vlan (.text name)).2 }
  | editLine {f : Line → Line} {l : Line} {n : Network} (mode : s.standing.mode = .line)
      (setting : Line.IsSetting f)
      (edited : s.network.editLine s.standing.uid s.standing.place.line f = .ok (l, n)) :
      Effect t s { s with network := n }

/-! ## Faults -/

/-- What a fault says of the scene in which a command ended in it: a selection that is lost was
lost before. -/
def Scene.Explains (s : Scene) : Fault → Prop
  | .noInterface => s.standing.mode = .interface ∧ s.standing.place.interface = .null
  | .noVlan => s.standing.mode = .vlan ∧ s.standing.place.vlan = .null
  | .noLine => s.standing.mode = .line ∧ s.standing.place.line = .null
  | .neverEnsured _ _ => s.standing.mode = .interface ∧
      ∃ d, s.network.device? s.standing.uid = some d ∧
        d.interface? s.standing.place.interface = .ok none
  | _ => True

/-- The outcome of a command that was given in a scene is one of those that are listed. -/
def Outcome.Sound (t : Timing) (s : Scene) : Outcome → Prop
  | .done output c => isErrorOutput output = false ∧ Effect t s c.scene
  | .refused _ _ => True
  | .failed f c => s.Explains f ∧ Effect t s c.scene

end NetLab
