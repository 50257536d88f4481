import NetLab.Proofs.Schema.Refusal
import NetLab.Proofs.Schema.Sound
import NetLab.Proofs.Service.Script

set_option autoImplicit false

/-!
# What the verdict on a document means

A document that fits the schema is found to be in order exactly if it is sound, and the other
requests load exactly the documents that are.  So the check of references and the reading of a
network never disagree: what is found to be in order cannot fail to be read.
-/

namespace NetLab.Service

open Schema

variable {doc : Value} {t : TopologyDoc}

theorem ok_validation (problems : List String) (advice : List Value) :
    (validation problems advice).part? "ok" = some (.bool problems.isEmpty) :=
  Value.part?_record (by simp) rfl

/-- Nothing is wrong with a document exactly if it is sound. -/
theorem documentProblems_eq_nil_iff (readable : ∀ d ∈ t.devices, d.Readable) :
    documentProblems t = [] ↔ t.Sound := by
  rw [TopologyDoc.sound_iff, documentProblems]
  cases references : t.referenceProblems with
  | cons p ps => simp
  | nil =>
    by_cases named : ∀ d ∈ t.devices, Text.trim d.id ≠ ""
    · obtain ⟨n, hn, -⟩ := (TopologyDoc.sound_iff.2 ⟨references, named⟩).ofDocument_eq_ok readable
      rw [hn]
      exact iff_of_true rfl ⟨rfl, named⟩
    · have blank : ∃ d ∈ t.devices, Text.trim d.id = "" := by simpa using named
      rw [TopologyDoc.ofDocument_of_blank readable blank]
      exact iff_of_false (List.cons_ne_nil _ _) fun sound => named sound.2

theorem ok_validate (accepted : topologyDoc doc = .ok t) :
    (validate doc).part? "ok" = some (.bool (decide t.Sound)) := by
  have verdict : (documentProblems t).isEmpty = decide t.Sound := by
    rw [Bool.eq_iff_iff, List.isEmpty_iff, decide_eq_true_iff]
    exact documentProblems_eq_nil_iff (readable_topologyDoc accepted)
  rw [validate, accepted]
  exact (ok_validation _ _).trans (congrArg (fun b => some (Value.bool b)) verdict)

/-- A document that is in order fits the schema, since a refusal names a problem, and is sound. -/
theorem sound_of_ok (ok : (validate doc).part? "ok" = some (.bool true)) :
    ∃ t, topologyDoc doc = .ok t ∧ t.Sound := by
  cases accepted : topologyDoc doc with
  | ok t =>
    rw [ok_validate accepted] at ok
    exact ⟨t, rfl, of_decide_eq_true (Value.bool.inj (Option.some.inj ok))⟩
  | bad ps =>
    rw [validate, accepted] at ok
    have none : (problemTexts ps).isEmpty = true :=
      Value.bool.inj (Option.some.inj ((ok_validation _ _).symm.trans ok))
    obtain rfl : ps = [] := List.map_eq_nil_iff.1 (List.isEmpty_iff.1 none)
    exact absurd accepted (Reader.Explains.topologyDoc doc)

/-- A document that fits the schema is in order exactly if it is sound, and a document is loaded
exactly if it fits the schema and is in order. -/
theorem validate_iff_sound (doc : Value) :
    (∀ t, topologyDoc doc = .ok t →
      (validate doc).part? "ok" = some (.bool (decide t.Sound))) ∧
    ((∃ n, load doc = .ok n) ↔
      (∃ t, topologyDoc doc = .ok t) ∧ (validate doc).part? "ok" = some (.bool true)) := by
  refine ⟨fun t accepted => ok_validate accepted, ?_⟩
  constructor
  · rintro ⟨n, hn⟩
    obtain ⟨t, accepted, -, -⟩ := load_eq_ok.1 hn
    have sound := (load_iff_sound accepted).1 ⟨n, hn⟩
    exact ⟨⟨t, accepted⟩, by rw [ok_validate accepted, decide_eq_true sound]⟩
  · rintro ⟨-, ok⟩
    obtain ⟨t, accepted, sound⟩ := sound_of_ok ok
    exact (load_iff_sound accepted).2 sound

/-- A link without an id comes before one that is given the id of the first number, and one whose id
is empty comes last. -/
theorem validate_iff_sound_numbered :
    let doc : Value := .object
      [("devices", .list
        [.object [("id", .text "A"), ("kind", .text "PC")],
          .object [("id", .text " B "), ("kind", .text "SWITCH_L2")]]),
       ("links", .list
        [.object [("sourceId", .text "A"), ("targetId", .text " B ")],
          .object [("id", .text "L1"), ("sourceId", .text "A"), ("targetId", .text " B ")],
          .object [("id", .text ""), ("sourceId", .text " B "), ("targetId", .text "A")]])]
    (∃ t, topologyDoc doc = .ok t ∧ t.Sound) ∧
      (validate doc).part? "ok" = some (.bool true) ∧ ∃ n, load doc = .ok n := by
  intro doc
  obtain ⟨verdict, loads⟩ := validate_iff_sound doc
  have fits : ∃ t, topologyDoc doc = .ok t ∧ t.Sound := by
    refine ⟨_, rfl, ?_⟩
    decide +kernel
  obtain ⟨t, accepted, sound⟩ := fits
  have ok : (validate doc).part? "ok" = some (.bool true) := by
    rw [verdict t accepted, decide_eq_true sound]
  exact ⟨⟨t, accepted, sound⟩, ok, loads.2 ⟨⟨t, accepted⟩, ok⟩⟩

end NetLab.Service
