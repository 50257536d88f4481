import Mathlib.Data.List.Dedup
import NetLab.Proofs.Network.Success
import NetLab.Proofs.Service.Validate

set_option autoImplicit false

/-!
# What becomes of the ids of a document

The references of a document are checked by its ids as they stand, and devices are named by ids
without the blanks around them.  So a document that is in order keeps its devices apart exactly if
their ids differ in more than such blanks, its links exactly if those of their ends do, and a packet
finds its ends exactly if there are no blanks to drop: it is sent between ids as they stand.
-/

namespace NetLab

/-! ## Packets between devices -/

namespace Network

variable {n : Network}

theorem Proper.host?_eq_none_iff (h : n.Proper) {uid : String} :
    Route.host? (n.devices.values.map Route.Host.ofDevice) uid = none ↔
      n.devices.contains uid = false := by
  have there : (∃ d ∈ n.devices.values, d.uid = uid) ↔ n.devices.contains uid = true := by
    rw [Roster.contains_iff, ← Roster.mem_keys_iff, ← h.map_uid, List.mem_map]
  rw [← Bool.not_eq_true, ← there, Route.host?, List.find?_eq_none]
  simp [Route.Host.ofDevice]

/-- A packet between two ids is not found exactly if one of them is no device. -/
theorem Proper.reason_trace (h : n.Proper) {source target : String} {v : Route.Verdict String}
    (hv : n.trace source target = .ok v) :
    v.reason = .notFound ↔
      n.devices.contains source = false ∨ n.devices.contains target = false := by
  rw [Route.reason_trace hv, h.host?_eq_none_iff, h.host?_eq_none_iff]

end Network

/-! ## Networks that documents describe -/

namespace Schema.TopologyDoc.Describes

variable {t : TopologyDoc} {n : Network}

/-- The ids of the devices, each once. -/
theorem perm_keys (h : t.Describes n) :
    n.devices.keys.Perm (t.devices.map fun d => Text.trim d.id).dedup := by
  have different : n.devices.keys.Nodup := n.devices.nodup
  refine (List.perm_ext_iff_of_nodup different (List.nodup_dedup _)).2 fun uid => ?_
  rw [Roster.mem_keys_iff, ← Roster.contains_iff, h.devices, List.mem_dedup, List.mem_map]
  simp only [eq_comm]

/-- Every device of the document is one of its own exactly if the ids differ in more than the blanks
around them. -/
theorem size_eq_iff (h : t.Describes n) :
    n.devices.size = t.devices.length ↔ (t.devices.map fun d => Text.trim d.id).Nodup := by
  have size : n.devices.size = (t.devices.map fun d => Text.trim d.id).dedup.length := by
    rw [← h.perm_keys.length_eq, Roster.keys, List.length_map, Roster.size]
  have length : t.devices.length = (t.devices.map fun d => Text.trim d.id).length :=
    (List.length_map _).symm
  rw [size, length, ← List.dedup_eq_self]
  exact ⟨(List.dedup_sublist _).eq_of_length, congrArg List.length⟩

/-- An id of the document is an id of a device exactly if there are no blanks around it. -/
theorem contains_iff (h : t.Describes n) {id : String} (hid : id ∈ t.devices.map (·.id)) :
    n.devices.contains id = true ↔ Text.trim id = id := by
  rw [h.devices]
  constructor
  · rintro ⟨d, -, rfl⟩
    exact Text.trim_trim _
  · intro trimmed
    obtain ⟨d, hd, rfl⟩ := List.mem_map.1 hid
    exact ⟨d, hd, trimmed.symm⟩

/-- No link is a loop exactly if the ends of every link differ in more than the blanks around
them. -/
theorem loopless_iff (h : t.Describes n) :
    n.Loopless ↔ ∀ l ∈ t.links, Text.trim l.source ≠ Text.trim l.target := by
  have apart : n.Loopless ↔ ∀ e ∈ n.links.values.map Link.ends, e.1 ≠ e.2 := by
    rw [List.forall_mem_map]
    exact ⟨fun loopless l hl => (Roster.mem_values_iff.1 hl).elim fun k hk => loopless k l hk,
      fun apart k l hl => apart l (Roster.mem_values_iff.2 ⟨k, hl⟩)⟩
  rw [apart, h.links, List.forall_mem_map]
  rfl

end Schema.TopologyDoc.Describes

/-! ## Answers -/

namespace Service

open Schema

variable {doc : Value}

theorem Reason.name_eq_notFound {r : Route.Reason} :
    Value.text r.name = .text "not_found" ↔ r = .notFound := by
  cases r <;> simp [Route.Reason.name]

/-- A packet between two texts is traced, and the answer says how it fared. -/
theorem simulate_text {n : Network} (hn : load doc = .ok n) (log : Log) (source target : String) :
    ∃ v answer, n.trace source target = .ok v ∧
      (simulate log doc (.text source) (.text target)).1 = .ok answer ∧
      answer.part? "reason" = some (.text v.reason.name) := by
  obtain ⟨v, hv⟩ := (typed_load hn).succeeds_trace source target
  have traced : (load doc).bind (·.traceValues (.text source) (.text target)) = .ok v := by
    rw [hn]
    exact hv
  refine ⟨v, verdictDocument .text v, hv, ?_, Value.part?_record (by simp) rfl⟩
  rw [simulate, traced]

/-- What a document that is in order makes of its ids. -/
theorem identities_of_ok (ok : (validate doc).part? "ok" = some (.bool true)) :
    ∃ t n, topologyDoc doc = .ok t ∧ load doc = .ok n ∧
      (n.devices.size = t.devices.length ↔ (t.devices.map fun d => Text.trim d.id).Nodup) ∧
      (∀ log, ∀ a ∈ t.devices.map (·.id), ∀ b ∈ t.devices.map (·.id),
        ∃ answer, (simulate log doc (.text a) (.text b)).1 = .ok answer ∧
          (answer.part? "reason" = some (.text "not_found") ↔
            Text.trim a ≠ a ∨ Text.trim b ≠ b)) ∧
      (n.Loopless ↔ ∀ l ∈ t.links, Text.trim l.source ≠ Text.trim l.target) := by
  obtain ⟨t, accepted, sound⟩ := sound_of_ok ok
  obtain ⟨n, hn⟩ := (load_iff_sound accepted).2 sound
  have describes := describes_load accepted hn
  refine ⟨t, n, accepted, hn, describes.size_eq_iff, fun log a ha b hb => ?_,
    describes.loopless_iff⟩
  obtain ⟨v, answer, hv, answered, reason⟩ := simulate_text hn log a b
  have absent : ∀ {id : String}, id ∈ t.devices.map (·.id) →
      (n.devices.contains id = false ↔ Text.trim id ≠ id) := by
    intro id hid
    rw [← Bool.not_eq_true, describes.contains_iff hid]
  refine ⟨answer, answered, ?_⟩
  rw [reason, Option.some.injEq, Reason.name_eq_notFound,
    (storable_load hn).proper.reason_trace hv, absent ha, absent hb]

/-- Two devices whose ids differ in a blank are joined.  They are one device, which no packet between
the ids as they stand finds, and the link is a loop. -/
theorem identities_of_ok_padded :
    let doc : Value := .object
      [("devices", .list
        [.object [("id", .text "A"), ("kind", .text "PC")],
          .object [("id", .text " A"), ("kind", .text "PC")]]),
       ("links", .list [.object [("sourceId", .text "A"), ("targetId", .text " A")]])]
    (validate doc).part? "ok" = some (.bool true) ∧
      ∃ n, load doc = .ok n ∧ n.devices.size ≠ 2 ∧ ¬n.Loopless ∧
        ∃ answer, (simulate freshLog doc (.text "A") (.text " A")).1 = .ok answer ∧
          answer.part? "reason" = some (.text "not_found") := by
  intro doc
  have ok : (validate doc).part? "ok" = some (.bool true) := by decide +kernel
  obtain ⟨t, n, accepted, hn, size, found, loopless⟩ := identities_of_ok ok
  obtain rfl := Checked.ok.inj (Eq.trans (Eq.symm accepted) rfl)
  obtain ⟨answer, answered, reason⟩ := found freshLog "A" (by decide) " A" (by decide)
  refine ⟨ok, n, hn, fun two => ?_, fun apart => ?_, answer, answered, reason.2 (Or.inr ?_)⟩
  · have different := size.1 two
    revert different
    decide +kernel
  · have ends := loopless.1 apart
    revert ends
    decide +kernel
  · decide +kernel

end Service

end NetLab
