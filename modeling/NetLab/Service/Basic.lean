import NetLab.Engine.Execute
import NetLab.LinkAdvice
import NetLab.Mission.Grade
import NetLab.Schema.Reference

set_option autoImplicit false

/-!
# The service

Requests that bring a topology document along and get an answer.  Every request works on a
network of its own; only the journal is kept between requests.  A request that fails keeps what
it told the journal before.
-/

namespace NetLab.Service

/-- The journal of a service. -/
abbrev Log : Type := Journal Event

/-- A journal as a service starts with it. -/
def freshLog : Log := Journal.empty (some Journal.usualCapacity)

/-! ## Documents -/

/-- What to say of a link of a document whose ends are devices, if it is worth saying. -/
def adviceOn (t : Schema.TopologyDoc) (l : Schema.LinkDoc) : Option Value :=
  let kindOf := fun uid => (t.devices.reverse.find? (·.id == uid)).map (·.kind)
  match kindOf l.source, kindOf l.target with
  | some a, some b =>
    let advice := LinkAdvice.between (some a) (some b)
    if advice.level = .info then none
    else some (.record [("link", .ofText? l.id), ("level", .text advice.level.name),
      ("message", .text advice.message)])
  | _, _ => none

/-- What is wrong with a document that fits the schema: its references, or else what stops it
from being loaded. -/
def documentProblems (t : Schema.TopologyDoc) : List String :=
  match t.referenceProblems with
  | [] =>
    match Network.ofDocument t.toDocument with
    | .ok _ => []
    | .error f => [f.summary]
  | problems => problems

/-- An answer on a document. -/
def validation (problems : List String) (advice : List Value) : Value :=
  .record [("ok", .bool problems.isEmpty), ("problems", .texts problems),
    ("advice", .list advice)]

/-- Say what is wrong with a document and what is doubtful about its links. -/
def validate (doc : Value) : Value :=
  match Schema.topologyDoc doc with
  | .bad ps => validation (Schema.problemTexts ps) []
  | .ok t => validation (documentProblems t) (t.links.filterMap (adviceOn t))

/-! ## Packets and links -/

/-- The fate of a packet as a document. -/
def verdictDocument {ν : Type} (shown : ν → Value) (v : Route.Verdict ν) : Value :=
  .record [("success", .bool v.success), ("path", .list (v.path.map shown)), ("hops", .int v.hops),
    ("message", .text v.message), ("reason", .text v.reason.name)]

/-- Trace a packet between two devices of a document.  What is no id of a device is not found. -/
def simulate (log : Log) (doc source target : Value) : Except Fault Value × Log :=
  match (Schema.load doc).bind (·.traceValues source target) with
  | .error f => (.error f, log)
  | .ok v =>
    (.ok (verdictDocument .text v), log.add ⟨"find_path",
      [("dst", target), ("reason", .text v.reason.name), ("src", source),
        ("success", .bool v.success)]⟩)

/-- The advice on a link between two kinds of device, whose names must be texts.  Case and
surrounding blanks do not matter. -/
def kindAdvice (source target : Value) : Except Fault LinkAdvice := do
  let kindName := fun s => Text.upper (Text.trim s)
  return LinkAdvice.ofNames (kindName (← source.strictText)) (kindName (← target.strictText))

/-- Advise on a link between two kinds of device. -/
def adviseLink (log : Log) (source target : Value) : Except Fault Value × Log :=
  match kindAdvice source target with
  | .error f => (.error f, log)
  | .ok advice =>
    (.ok (.record [("isValid", .bool advice.isValid), ("message", .text advice.message),
      ("level", .text advice.level.name)]),
     log.add ⟨"validate_link", [("dst", target), ("level", .text advice.level.name),
      ("src", source)]⟩)

/-! ## Missions -/

/-- A mission as a document. -/
def missionDocument (m : Mission) : Value :=
  .record [
    ("id", .int m.id), ("title", .text m.title), ("difficulty", .text m.difficulty),
    ("description", .text m.description),
    ("steps", .list (m.steps.map fun s =>
      .record [("title", .text s.title), ("task", .text s.task), ("hint", .text s.hint)]))]

/-- All missions. -/
def missions : Value := .list (Mission.all.map missionDocument)

/-- The grade of a step of a mission, both given by values. -/
def grade (n : Network) (mission step : Value) : Except Fault Mission.Grade := do
  let m ← Mission.ofValue mission
  m.verify n (← m.readStep step)

/-- The step to try next as a document.  A step that did not pass is to be tried again, and is
given back as it came. -/
def nextStepDocument (g : Mission.Grade) (step : Value) : Value :=
  if g.passed then .ofInt? g.nextStep else step

/-- Grade a step of a mission on a document. -/
def verifyStep (log : Log) (doc mission step : Value) : Except Fault Value × Log :=
  match (Schema.load doc).bind fun n => grade n mission step with
  | .error f => (.error f, log)
  | .ok g =>
    (.ok (.record [("passed", .bool g.passed), ("message", .text g.message),
      ("nextStep", nextStepDocument g step), ("complete", .bool g.complete)]),
     log.add ⟨"verify_mission", [("mission", .int g.mission), ("passed", .bool g.passed),
      ("step", step)]⟩)

/-! ## Scripted sessions -/

/-- What a command of a script came to. -/
structure CommandResult where
  /-- the command as it came -/
  command : Value
  output : String
  refused : Bool
  deriving DecidableEq, Repr, Inhabited

/-- What a script came to. -/
structure ScriptResult where
  results : List CommandResult
  transcript : List String
  mode : Mode
  closed : Bool
  network : Network
  deriving DecidableEq, Repr

/-- An engine for a script: devices boot at once. -/
def scriptEngine (n : Network) : Engine :=
  { network := n, bootDelay := Double.zero, listener := .recording (Journal.empty none) }

/-- Execute commands in a session until one closes it.  `clock k` is the time of the command at
place `k`. -/
def runCommands (clock : Nat → Double) (id : Nat) :
    List Value → Nat → Engine → Except Fault (List CommandResult) × Engine
  | [], k, e => (.ok [], { e with clock := clock k })
  | c :: cs, k, e =>
    match { e with clock := clock k }.executeValue id c with
    | (.error f, e) => (.error f, e)
    | (.ok r, e) =>
      let result : CommandResult := ⟨c, r.output, r.refused⟩
      if r.closed then (.ok [result], { e with clock := clock (k + 1) })
      else
        match runCommands clock id cs (k + 1) e with
        | (.error f, e) => (.error f, e)
        | (.ok results, e) => (.ok (result :: results), e)

/-- Run a script on a device of a network.  The session is open before the commands are looked
at.  The engine is given back for its notices. -/
def runScript (clock : Nat → Double) (n : Network) (uid : String) (commands : Value) :
    Except Fault ScriptResult × Engine :=
  match (scriptEngine n).openSession uid with
  | .error f => (.error f, scriptEngine n)
  | .ok (id, e) =>
    match commands.items with
    | .error f => (.error f, e)
    | .ok commands =>
      match runCommands clock id commands 0 e with
      | (.error f, e) => (.error f, e)
      | (.ok results, e) =>
        let e := e.poll id
        let s := (e.session? id).getD default
        (.ok ⟨results, s.transcript, s.mode, s.closed, e.network⟩, e)

/-- The result of a script as a document. -/
def scriptDocument (r : ScriptResult) : Value :=
  .record [
    ("results", .list (r.results.map fun c =>
      .record [("command", c.command), ("output", .text c.output),
        ("refused", .bool c.refused)])),
    ("transcript", .texts r.transcript),
    ("mode", r.mode.value),
    ("closed", .bool r.closed),
    ("topology", r.network.toDocument)]

/-- Run commands on a device of a document. -/
def runDevice (clock : Nat → Double) (log : Log) (doc uid commands : Value) :
    Except Fault Value × Log :=
  match (Schema.load doc).bind fun n => uid.line.map fun uid => (n, uid) with
  | .error f => (.error f, log)
  | .ok (n, id) =>
    let (result, e) := runScript clock n id commands
    let log := log.addAll (e.listener.journal.toList.map Notice.toEvent)
    match result with
    | .error f => (.error f, log)
    | .ok r =>
      (.ok (scriptDocument r), log.add ⟨"run_commands",
        [("closed", .bool r.closed), ("count", .int r.results.length), ("uid", uid)]⟩)

end NetLab.Service
