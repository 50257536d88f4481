import NetLab.Command.Table
import NetLab.Console.Basic
import NetLab.Console.Show

set_option autoImplicit false

/-!
# Carrying out commands

Each action of the command table, as a function from a console to an outcome.  An outcome of every
kind has the console as it stood when the command stopped.
-/

namespace NetLab

/-- When a command is carried out, and how long the device takes to boot. -/
structure Timing where
  now : Double
  bootDelay : Double
  deriving DecidableEq, Repr, Inhabited

/-- What a session prints when it is closed. -/
def closeSignal : String := "__CLOSE__"

/-- The VLAN id that a word writes. -/
def readVlan (word : String) : Option Int :=
  match Numeral.parse word with
  | .ok v => if minVlan ≤ v && v ≤ maxVlan then some v else none
  | .error _ => none

namespace Console

/-! ## Exec commands -/

/-- Send five echo messages to an address. -/
def ping (c : Console) (ip : String) : Outcome :=
  let sending := "Sending 5, 100-byte ICMP Echos to " ++ ip ++ ", timeout is 2 seconds:"
  let failure := [".....", "Success rate is 0 percent (0/5)."]
  match c.network.deviceByAddress (.text ip) with
  | none => .done (Show.output (sending :: failure)) c
  | some target =>
    c.attempt (c.network.trace c.session.uid target.uid) fun v =>
      let c := c.send (.ping target.uid v.success v.reason)
      if v.success then
        .done (Show.output [sending, "!!!!!", "Success rate is 100 percent (5/5)."]) c
      else .done (Show.output (sending :: failure ++ [v.message])) c

/-- Print what a device shows. -/
def showDevice (c : Console) (view : Device → Except Fault (List String)) : Outcome :=
  c.attempt (c.network.device c.session.uid) fun d =>
    c.attempt (view d) fun lines => .done (Show.output lines) c

/-- The lines of the session's history. -/
def historyText (c : Console) : String := Show.output (c.session.history.map ("  " ++ ·))

/-- Restart the device.  Only the session knows of it. -/
def reload (t : Timing) (c : Console) : Outcome :=
  ((c.onSession (·.halt (t.now.add t.bootDelay))).send (.reload t.bootDelay)).quiet

/-! ## Global configuration -/

/-- Change the network and print nothing. -/
def configure (c : Console) (x : Except Fault Network) : Outcome :=
  c.attempt x fun n => (c.withNetwork n).quiet

/-- Change a VLAN table and go on. -/
def changeVlans (c : Console) (x : Except Fault (Except Rejection Network))
    (next : Console → Outcome) : Outcome :=
  c.attempt x fun
    | .ok n => next (c.withNetwork n)
    | .error r => .refused (.rejected r) c

/-- Name the device; the prompt follows. -/
def nameDevice (c : Console) (name : String) : Outcome :=
  c.attempt (c.network.setHostname c.session.uid (.text name)) fun n =>
    ((c.withNetwork n).onSession fun s => { s with hostname := .text name }).quiet

/-- Select an interface, which is made if it is new.  The words of its name are joined. -/
def selectInterface (c : Console) (words : List String) : Outcome :=
  let name := Port.normalize (String.join words)
  c.attempt (c.network.ensureInterface c.session.uid (.text name)) fun p =>
    ((c.withNetwork p.2).onSession fun s =>
      { s with place := { mode := .interface, interface := .text name } }).quiet

/-- Select a VLAN, which is made if it is new. -/
def selectVlan (c : Console) (word : String) : Outcome :=
  c.attempt (c.network.device c.session.uid) fun d =>
    if !d.supportsVlans then .refused (.rejected .unsupported) c
    else
      match readVlan word with
      | none => .refused .invalidInput c
      | some vlan =>
        c.changeVlans (c.network.setVlan c.session.uid vlan .null) fun c =>
          (c.onSession fun s => { s with place := { mode := .vlan, vlan := .int vlan } }).quiet

/-- Delete a VLAN. -/
def deleteVlan (c : Console) (word : String) : Outcome :=
  match readVlan word with
  | none => .refused .invalidInput c
  | some vlan => c.changeVlans (c.network.removeVlan c.session.uid vlan) quiet

/-- Select a terminal line. -/
def selectLine (c : Console) (word : String) : Outcome :=
  match Keyword.expand? word LineName.names with
  | none => .refused .invalidInput c
  | some name =>
    (c.onSession fun s => { s with place := { mode := .line, line := .text name } }).quiet

/-! ## Interface configuration -/

/-- Change the selected interface and go on. -/
def editSelected (c : Console) (f : Interface → Interface)
    (next : Interface → Console → Outcome) : Outcome :=
  match c.session.place.interface with
  | .null => .failed .noInterface c
  | name =>
    c.attempt (c.network.editInterface c.session.uid name f) fun p =>
      next p.1 (c.withNetwork p.2)

/-- Change the selected interface and print nothing. -/
def setOnSelected (c : Console) (f : Interface → Interface) : Outcome :=
  c.editSelected f fun _ c => c.quiet

/-- Shut the selected interface down or bring it up. -/
def setShutdown (c : Console) (down : Bool) : Outcome :=
  c.editSelected (fun i => { i with shutdown := .bool down }) fun i c =>
    .done (if down then
      "%LINK-5-CHANGED: Interface " ++ i.name.display ++
        ", changed state to administratively down"
    else "%LINK-3-UPDOWN: Interface " ++ i.name.display ++ ", changed state to up") c

/-- Set the port mode of the selected interface. -/
def setPortMode (c : Console) (word : String) : Outcome :=
  match Keyword.expand? word PortMode.names with
  | none => .refused .invalidInput c
  | some name => c.setOnSelected fun i => { i with mode := .ofName name }

/-- Give the end host at the selected port the VLAN tag of the port. -/
def tagNeighbour (c : Console) (vlan : Int) : Outcome :=
  let name := c.session.place.interface
  let uid := c.session.uid
  c.attempt (Port.linkFor? uid name c.network.links.values) fun
    | none => c.quiet
    | some link =>
      match c.network.devices.get? (link.other uid) with
      | none => c.quiet
      | some d =>
        if d.kind.isEndHost then
          c.attempt (c.network.setDisplayVlan d.uid (.int vlan)) fun n =>
            .done ("[Sim]: Assigned neighbor device on " ++ name.display ++ " to VLAN " ++
              toString vlan) (c.withNetwork n)
        else c.quiet

/-- Set the access VLAN of the selected interface and tag the end host at it. -/
def setAccessVlan (c : Console) (word : String) : Outcome :=
  match readVlan word with
  | none => .refused .invalidInput c
  | some vlan =>
    c.editSelected (fun i => { i with accessVlan := .int vlan }) fun _ c => c.tagNeighbour vlan

/-- Set the native VLAN of the selected interface. -/
def setNativeVlan (c : Console) (word : String) : Outcome :=
  match readVlan word with
  | none => .refused .invalidInput c
  | some vlan => c.setOnSelected fun i => { i with nativeVlan := .int vlan }

/-- Set the address of the selected interface: an address and a mask. -/
def setInterfaceAddress (c : Console) : List String → Outcome
  | [ip, mask] => c.setOnSelected fun i => { i with ip := .text ip, mask := .text mask }
  | _ => .refused .incomplete c

/-! ## VLAN and line configuration -/

/-- Name the selected VLAN. -/
def nameVlan (c : Console) (name : String) : Outcome :=
  match c.session.place.vlan with
  | .null => .failed .noVlan c
  | vlan =>
    match c.network.setVlanOf c.session.uid vlan (.text name) with
    | (.ok none, n) => (c.withNetwork n).quiet
    | (.ok (some r), n) => .refused (.rejected r) (c.withNetwork n)
    | (.error f, n) => .failed f (c.withNetwork n)

/-- Change the selected terminal line. -/
def editSelectedLine (c : Console) (f : Line → Line) : Outcome :=
  match c.session.place.line with
  | .null => .failed .noLine c
  | name =>
    c.attempt (c.network.editLine c.session.uid name f) fun p => (c.withNetwork p.2).quiet

/-! ## Every mode -/

/-- Leave the mode.  User mode is left by closing the session. -/
def leave (c : Console) : Outcome :=
  match c.session.mode with
  | .user => .done closeSignal ((c.onSession Session.close).send .closed)
  | .privileged => (c.onSession (·.enter .user)).quiet
  | .config => (c.onSession (·.enter .privileged)).quiet
  | _ => (c.onSession (·.enter .config)).quiet

/-- Return to privileged mode from a configuration mode. -/
def finish (c : Console) : Outcome :=
  if c.session.mode.isExec then .refused .invalidInput c
  else (c.onSession (·.enter .privileged)).quiet

end Console

/-! ## The actions -/

/-- Carry out an action with the arguments of its command.  `exec` is carried out by
`Console.dispatch`, which knows the command table. -/
def Action.run (t : Timing) (args : List String) (c : Console) : Action → Outcome
  | .enable => (c.onSession fun s => { s with place.mode := .privileged }).quiet
  | .disable => (c.onSession (·.enter .user)).quiet
  | .configure =>
    .done "Enter configuration commands, one per line.  End with CNTL/Z."
      (c.onSession (·.enter .config))
  | .ping => c.ping (args.headD "")
  | .showVersion => .done Show.version c
  | .showRunningConfig => c.showDevice Show.runningConfig
  | .showVlan => c.showDevice Show.vlanBrief
  | .showInterfaces => c.showDevice fun d => Show.interfaceBrief d c.network.links.values
  | .showHistory => .done c.historyText c
  | .reload => c.reload t
  | .vlanOutsideConfig => .refused .vlanNeedsConfig c
  | .hostname => c.nameDevice (args.headD "")
  | .interface => c.selectInterface args
  | .vlan => c.selectVlan (args.headD "")
  | .noVlan => c.deleteVlan (args.headD "")
  | .routing enabled => c.configure (c.network.setRouting c.session.uid enabled)
  | .domainName => c.configure (c.network.setDomainName c.session.uid (.text (args.headD "")))
  | .line => c.selectLine (args.headD "")
  | .shutdown down => c.setShutdown down
  | .portMode => c.setPortMode (args.headD "")
  | .accessVlan => c.setAccessVlan (args.headD "")
  | .trunkAllowed => c.setOnSelected fun i => { i with trunkAllowed := .text (Text.unwords args) }
  | .trunkNative => c.setNativeVlan (args.headD "")
  | .address => c.setInterfaceAddress args
  | .noAddress => c.setOnSelected fun i => { i with ip := .null, mask := .null }
  | .description => c.setOnSelected fun i => { i with description := .text (Text.unwords args) }
  | .noDescription => c.setOnSelected fun i => { i with description := .null }
  | .vlanName => c.nameVlan (Text.unwords args)
  | .password => c.editSelectedLine fun l => { l with password := .text (args.headD "") }
  | .noPassword => c.editSelectedLine fun l => { l with password := .null }
  | .login required => c.editSelectedLine fun l => { l with login := .bool required }
  | .exit => c.leave
  | .finish => c.finish
  | .help => .done (Command.helpText c.session.mode) c
  | .exec => .refused .incomplete c
  | .clear => (c.onSession fun s => { s with transcript := [] }).quiet

namespace Outcome

/-- The session goes back to where it stood, whatever became of the command. -/
def backTo (place : Place) : Outcome → Outcome
  | done output c => done output (c.onSession fun s => { s with place := place })
  | refused r c => refused r (c.onSession fun s => { s with place := place })
  | failed f c => failed f (c.onSession fun s => { s with place := place })

end Outcome

namespace Command

/-- The number of arguments is one that the command takes. -/
def checkArity (cmd : Command) (args : List String) : Option Refusal :=
  if args.length < cmd.minArgs then some .incomplete
  else if cmd.maxArgs.any (· < args.length) then some .invalidInput
  else none

end Command

namespace Console

/-- Carry out the words of a line.  `do` has one keyword: it carries out the words after it as
in privileged mode, and then the session stands where it stood.  Each `do` is a call within a call,
and there is no bound here on how deep they go.  A call stack has one, so of lines with hundreds of
levels this says nothing about an engine that runs on such a stack. -/
def dispatch (t : Timing) : List String → Console → Outcome
  | [], c => .refused .incomplete c
  | w :: ws, c =>
    match Command.resolve c.session.mode (w :: ws) with
    | none => .refused (Command.unmatched c.session.mode (w :: ws)) c
    | some (cmd, args) =>
      match cmd.checkArity args with
      | some r => .refused r c
      | none =>
        match cmd.action with
        | .exec =>
          let place := c.session.place
          let inner := c.onSession fun s => { s with place.mode := .privileged }
          (dispatch t ws inner).backTo place
        | action => action.run t args c

end Console

end NetLab
