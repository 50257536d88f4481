import NetLab.Route.Address
import NetLab.Route.Shortest

set_option autoImplicit false

/-!
# The fate of a packet

A packet takes a shortest path.  It is lost if an end is unknown or has no valid address, if no
path exists, if a device on the path is down, or if the two ends are in different subnets and no
device on the path routes; the first of these that applies is the reason given.
-/

namespace NetLab.Route

/-- What a packet meets of a device, which is named by a value of a type. -/
structure Host (ν : Type) where
  uid : ν
  label : Value
  address : Value
  isDown : Bool
  /-- the device passes packets from one subnet to another, if that can be told -/
  routes : Except Fault Bool

namespace Host

/-- The host that a device is. -/
def ofDevice (d : Device) : Host String :=
  { uid := d.uid, label := d.label, address := d.address, isDown := d.status = .down,
    routes := .ok d.kind.routes }

/-- The host that values describe.  They need not name a kind or a state. -/
def ofValues (uid kind status label address : Value) : Host Ident :=
  { uid := ⟨uid⟩, label := if label.given then label else uid, address,
    isDown := status = .text Status.down.name,
    routes := kind.textKey.map fun name => (name.bind Kind.ofName?).any (·.routes) }

end Host

/-- How a packet fared. -/
inductive Reason where
  | ok
  | notFound
  | configError
  | noPath
  | deviceDown
  | routingError
  deriving DecidableEq, Repr, Inhabited

/-- The word for how a packet fared. -/
def Reason.name : Reason → String
  | ok => "ok"
  | notFound => "not_found"
  | configError => "config_error"
  | noPath => "no_path"
  | deviceDown => "device_down"
  | routingError => "routing_error"

/-- What became of a packet. -/
structure Verdict (ν : Type) where
  success : Bool
  path : List ν
  hops : Int
  message : String
  reason : Reason
  deriving DecidableEq, Repr, Inhabited

section

variable {ν : Type}

/-- A packet that was lost on a path. -/
def Verdict.lost (reason : Reason) (path : List ν) (message : String) : Verdict ν :=
  { success := false, path, hops := 0, message, reason }

/-- A packet that arrived over a path between two addresses. -/
def Verdict.arrived (path : List ν) (sourceIp targetIp : String) : Verdict ν :=
  let hops : Int := path.length - 1
  { success := true, path, hops,
    message := "Success! Packet delivered from " ++ sourceIp ++ " to " ++ targetIp ++ " via " ++
      toString hops ++ " hops.",
    reason := .ok }

/-- The valid address of a host, if it has one.  An address that is no text cannot be checked. -/
def address? (h : Host ν) : Except Fault (Option String) :=
  match h.address with
  | .text s => .ok (if Address.isValid s then some s else none)
  | v => if v.given then .error .wrongKind else .ok none

/-- A packet whose end has no valid address. -/
def missingAddress (role : String) (h : Host ν) : Verdict ν :=
  .lost .configError [] ("Configuration Error: " ++ role ++ " device (" ++ h.label.display ++
    ") is missing a valid IP address.")

/-- One of the hosts routes; those after it are not looked at. -/
def anyRoutes : List (Host ν) → Except Fault Bool
  | [] => .ok false
  | h :: hs => do if ← h.routes then return true else anyRoutes hs

/-- The fate of a packet on a path between valid addresses, where the path meets these hosts. -/
def deliver (path : List ν) (onPath : List (Host ν)) (sourceIp targetIp : String) :
    Except Fault (Verdict ν) := do
  match onPath.find? (·.isDown) with
  | some h =>
    return .lost .deviceDown path ("Link Failure: Packet dropped at " ++ h.label.display ++
      " (Device is DOWN).")
  | none =>
    let routed ←
      if Address.subnet sourceIp = Address.subnet targetIp then pure true else anyRoutes onPath
    if routed then return .arrived path sourceIp targetIp
    else
      return .lost .routingError path ("Routing Error: Devices are in different subnets (" ++
        Address.subnet sourceIp ++ ".x vs " ++ Address.subnet targetIp ++
        ".x) but no Router/Gateway was found in the path.")

variable [BEq ν]

/-- The last of the hosts with an id. -/
def host? (hosts : List (Host ν)) (uid : ν) : Option (Host ν) :=
  hosts.reverse.find? (·.uid == uid)

/-- The fate of a packet between two ids.  `pathOf` gives the path between two ids, if there is
one; it is asked once both addresses are known to be valid. -/
def trace (hosts : List (Host ν)) (pathOf : ν → ν → Except Fault (Option (List ν)))
    (source target : ν) : Except Fault (Verdict ν) := do
  match host? hosts source, host? hosts target with
  | some src, some dst =>
    match ← address? src with
    | none => return missingAddress "Source" src
    | some sourceIp =>
      match ← address? dst with
      | none => return missingAddress "Destination" dst
      | some targetIp =>
        match ← pathOf source target with
        | none =>
          return .lost .noPath []
            "Physical Link Error: No cable connection exists between these devices."
        | some path => deliver path (path.filterMap (host? hosts)) sourceIp targetIp
  | _, _ => return .lost .notFound [] "Device not found."

end

/-- The hosts have ids that can be keys. -/
def checkHosts : List (Host Ident) → Except Fault Unit
  | [] => .ok ()
  | h :: hs => do
    discard h.uid.value.key
    checkHosts hs

/-- The fate of a packet between two values, where devices are named by values. -/
def traceIdents (hosts : List (Host Ident)) (links : List (Link Ident)) (source target : Ident) :
    Except Fault (Verdict Ident) := do
  checkHosts hosts
  discard source.value.key
  discard target.value.key
  trace hosts (shortestPathOf links) source target

end NetLab.Route

namespace NetLab.Network

/-- The fate of a packet between two devices, whose ids are taken as they stand. -/
def trace (n : Network) (source target : String) : Except Fault (Route.Verdict String) :=
  Route.trace (n.devices.values.map Route.Host.ofDevice)
    (fun s t => .ok (Route.shortestPath n.links.values s t)) source target

/-- The fate of a packet between two values, which need not be ids. -/
def traceValues (n : Network) (source target : Value) : Except Fault (Route.Verdict String) := do
  match ← source.textKey, ← target.textKey with
  | some source, some target => n.trace source target
  | _, _ => return .lost .notFound [] "Device not found."

end NetLab.Network
