import NetLab.Proofs.Engine.Tidy
import NetLab.Proofs.Schema.Written
import NetLab.Service.Basic

set_option autoImplicit false

/-!
# What scripts leave

A script runs on a network that was loaded from a document, and what it leaves is a network that a
document can hold.  So the topology that a script answers with is accepted: it fits the schema, its
references hold together, and it loads.
-/

namespace NetLab

/-- The field of a record. -/
def Value.part? (name : String) : Value → Option Value
  | .object fs => field? name fs
  | _ => none

theorem Value.part?_record {es : List (String × Value)} (h : (es.map Prod.fst).Nodup)
    {name : String} {v : Value} (hv : Index.find name es = some v) :
    (Value.record es).part? name = some v :=
  (field?_record h name).trans hv

namespace Service

variable {clock : Nat → Double}

/-! ## Scripts keep what they run on -/

/-- What every command keeps, a script keeps. -/
theorem runCommands_induction {P : Engine → Prop} (clock : Nat → Double) {id : Nat}
    (execute : ∀ e line, P e → P (e.executeValue id line).2)
    (time : ∀ e c, P e → P { e with clock := c }) (cs : List Value) {k : Nat} {e : Engine}
    (he : P e) : P (runCommands clock id cs k e).2 := by
  induction cs generalizing k e with
  | nil => exact time e _ he
  | cons c cs ih =>
    have step := execute _ c (time e (clock k) he)
    rw [runCommands]
    generalize ({ e with clock := clock k } : Engine).executeValue id c = result at step
    obtain ⟨out, next⟩ := result
    cases out with
    | error f => exact step
    | ok r =>
      dsimp only
      split
      · exact time next _ step
      · have rest := ih (k := k + 1) step
        generalize runCommands clock id cs (k + 1) next = result at rest
        obtain ⟨out, last⟩ := result
        cases out with
        | error f => exact rest
        | ok results => exact rest

theorem tidy_scriptEngine {n : Network} (hs : n.Storable) (ht : n.Typed) : (scriptEngine n).Tidy :=
  .of_no_session hs ht rfl

/-- A script leaves a network that a document can hold, with the links of the network that it runs
on. -/
theorem network_runScript {n : Network} {uid : String} {commands : Value} {r : ScriptResult}
    {e : Engine} (hs : n.Storable) (ht : n.Typed)
    (h : runScript clock n uid commands = (.ok r, e)) :
    r.network.Storable ∧ r.network.Typed ∧ r.network.links = n.links := by
  rw [runScript] at h
  split at h
  · cases h
  · next id opened hopened =>
    have start : opened.Tidy ∧ opened.network.links = n.links := by
      refine ⟨(tidy_scriptEngine hs ht).openSession hopened, ?_⟩
      obtain ⟨-, -, same, -⟩ := Engine.openSession_eq_ok hopened
      rw [same, scriptEngine]
    split at h
    · cases h
    · next cs _ =>
      have ran := runCommands_induction (P := fun e => e.Tidy ∧ e.network.links = n.links) clock
        (fun e line he => ⟨he.1.executeValue line, (Engine.links_executeValue e id line).trans he.2⟩)
        (fun e c he => ⟨he.1.at_clock c, he.2⟩) cs (k := 0) start
      split at h
      · cases h
      · next results last hlast =>
        rw [hlast] at ran
        obtain ⟨hr, -⟩ := Prod.mk.inj h
        rw [← Except.ok.inj hr, Engine.network_poll]
        exact ⟨ran.1.storable, ran.1.typed, ran.2⟩

/-! ## Answers -/

/-- An answer comes from a script on the network of the document. -/
theorem runDevice_eq_ok {log : Log} {doc uid commands answer : Value}
    (h : (runDevice clock log doc uid commands).1 = .ok answer) :
    ∃ n name r e, Schema.load doc = .ok n ∧ uid.line = .ok name ∧
      runScript clock n name commands = (.ok r, e) ∧ answer = scriptDocument r := by
  rw [runDevice] at h
  split at h
  · cases h
  · next n name hload =>
    obtain ⟨n', hn', hname⟩ := bind_eq_ok_iff.1 hload
    obtain ⟨name', hname', heq⟩ := map_eq_ok_iff.1 hname
    cases heq
    dsimp only at h
    split at h
    · cases h
    · next r hr =>
      exact ⟨n, name, r, (runScript clock n name commands).2, hn', hname', Prod.ext hr rfl,
        (Except.ok.inj h).symm⟩

theorem topology_scriptDocument (r : ScriptResult) :
    (scriptDocument r).part? "topology" = some r.network.toDocument :=
  Value.part?_record (by simp) rfl

/-- The document of a network without loops is found to be in order. -/
theorem validate_toDocument {n : Network} (hs : n.Storable) (ht : n.Typed) (hl : n.Loopless) :
    ∃ advice, validate n.toDocument = validation [] advice := by
  obtain ⟨t, m, accepted, back, references, loads⟩ := Schema.exists_load_toDocument hs ht hl
  have problems : documentProblems t = [] := by
    rw [documentProblems, references, back, loads]
  refine ⟨t.links.filterMap (adviceOn t), ?_⟩
  rw [validate, accepted, ← problems]

/-- A document whose links end where they say, blanks included, is run on by a script of any
commands.  The topology of the answer is in order. -/
theorem validate_runDevice {log : Log} {doc uid commands answer : Value} {t : Schema.TopologyDoc}
    (accepted : Schema.topologyDoc doc = .ok t) (trimmed : t.HasTrimmedEnds)
    (answered : (runDevice clock log doc uid commands).1 = .ok answer) :
    ∃ topology, answer.part? "topology" = some topology ∧
      (validate topology).part? "ok" = some (.bool true) ∧
      (validate topology).part? "problems" = some (.texts []) := by
  obtain ⟨n, name, r, e, hload, -, hrun, rfl⟩ := runDevice_eq_ok answered
  obtain ⟨hs, ht, hlinks⟩ :=
    network_runScript (Schema.storable_load hload) (Schema.typed_load hload) hrun
  have loopless : r.network.Loopless :=
    (Schema.loopless_load accepted trimmed hload).congr hlinks
  obtain ⟨advice, hvalid⟩ := validate_toDocument hs ht loopless
  refine ⟨r.network.toDocument, topology_scriptDocument r, ?_, ?_⟩
  · rw [hvalid, validation]
    exact Value.part?_record (by simp) rfl
  · rw [hvalid, validation]
    exact Value.part?_record (by simp) rfl

/-- A switch is named and given a VLAN. -/
theorem validate_runDevice_vlan :
    let doc : Value := .object
      [("devices", .list
        [.object [("id", .text "S1"), ("kind", .text "SWITCH_L2")],
          .object [("id", .text "P1"), ("kind", .text "PC")]]),
       ("links", .list [.object [("sourceId", .text "S1"), ("targetId", .text "P1")]])]
    let commands : Value := .list [.text "enable", .text "conf t", .text "vlan 10"]
    ∃ t answer topology, Schema.topologyDoc doc = .ok t ∧ t.HasTrimmedEnds ∧
      (runDevice (fun _ => Double.zero) freshLog doc (.text "S1") commands).1 = .ok answer ∧
      answer.part? "topology" = some topology ∧
      (validate topology).part? "ok" = some (.bool true) ∧
      (validate topology).part? "problems" = some (.texts []) := by
  intro doc commands
  have fits : ∃ t, Schema.topologyDoc doc = .ok t ∧ t.HasTrimmedEnds := by
    refine ⟨_, rfl, ?_⟩
    decide +kernel
  have answers : ((runDevice (fun _ => Double.zero) freshLog doc (.text "S1") commands).1).isOk =
      true := by
    decide +kernel
  obtain ⟨t, accepted, trimmed⟩ := fits
  obtain ⟨answer, answered⟩ := isOk_iff.1 answers
  obtain ⟨topology, part, ok, problems⟩ := validate_runDevice accepted trimmed answered
  exact ⟨t, answer, topology, accepted, trimmed, answered, part, ok, problems⟩

end Service

end NetLab
