import NetLab.Network.Snapshot
import NetLab.Proofs.Engine.InUse
import NetLab.Proofs.Engine.Lifetime
import NetLab.Proofs.Service.Identity

set_option autoImplicit false

/-!
# Ids with blanks around them

A device is found by its id and by every text that is its id with blanks around it.  What is read of
a device is the same for all of these, and so is the session that opens.  Two look-ups take an id as
it stands: the one of the open session on a device, and the one of the ends of a packet.  They find
a device by its own id only (`Engine.InUse.namesAs`).
-/

namespace NetLab

/-! ## Reading by a padded id -/

namespace Network

variable {n : Network} {u v : String} {a b : Device}

theorem device_trim (n : Network) (u : String) : n.device (Text.trim u) = n.device u := by
  rw [device, device, device?, device?, Text.trim_trim]

theorem linksFor_trim (n : Network) (u : String) : n.linksFor (Text.trim u) = n.linksFor u := by
  rw [linksFor, linksFor, Text.trim_trim]

theorem snapshot_trim (n : Network) (u : String) : n.snapshot (Text.trim u) = n.snapshot u := by
  rw [snapshot, snapshot, device_trim]

theorem exportDevice_trim (n : Network) (u : String) :
    n.exportDevice (Text.trim u) = n.exportDevice u := by
  rw [exportDevice, exportDevice, device_trim]

namespace Proper

/-- What is found by a text stands under it exactly if it has no blanks around it. -/
theorem contains_iff_trim (h : n.Proper) (found : n.device? u = some a) :
    n.devices.contains u = true ↔ Text.trim u = u := by
  rw [Roster.contains_iff]
  constructor
  · rintro ⟨d, hd⟩
    exact (h u d hd).trimmed
  · intro trimmed
    rw [device?, trimmed] at found
    exact ⟨a, found⟩

/-- A packet between ids one of which is no device is lost. -/
theorem trace_of_absent (h : n.Proper)
    (absent : n.devices.contains u = false ∨ n.devices.contains v = false) :
    n.trace u v = .ok (.lost .notFound [] "Device not found.") := by
  rw [trace, Route.trace]
  obtain hu | hv := absent
  · rw [h.host?_eq_none_iff.2 hu]
    rfl
  · rw [h.host?_eq_none_iff.2 hv]
    cases Route.host? (n.devices.values.map Route.Host.ofDevice) u <;> rfl

/-- A packet between texts that name devices finds them exactly if neither has blanks around it. -/
theorem trace_of_named (h : n.Proper) (hu : n.device? u = some a) (hv : n.device? v = some b) :
    n.trace u v = if Text.trim u = u ∧ Text.trim v = v then n.trace a.uid b.uid
      else .ok (.lost .notFound [] "Device not found.") := by
  split
  · next trimmed =>
    rw [(h _ _ hu).uid, (h _ _ hv).uid, trimmed.1, trimmed.2]
  · next padded =>
    refine h.trace_of_absent ?_
    rw [← h.contains_iff_trim hu, ← h.contains_iff_trim hv, Decidable.not_and_iff_not_or_not,
      Bool.not_eq_true, Bool.not_eq_true] at padded
    exact padded

/-- Between devices no packet is lost for want of a device. -/
theorem reason_ne_notFound (h : n.Proper) (hu : n.device? u = some a) (hv : n.device? v = some b)
    {w : Route.Verdict String} (hw : n.trace a.uid b.uid = .ok w) : w.reason ≠ .notFound := by
  have there : ∀ {u : String} {a : Device}, n.device? u = some a →
      n.devices.contains a.uid = true := fun {u a} found => by
    rw [(h _ _ found).uid, Roster.contains_iff]
    exact ⟨a, found⟩
  rw [Ne, h.reason_trace hw, there hu, there hv]
  decide

end Proper

end Network

/-! ## Sessions by a padded id -/

namespace Engine

variable {e : Engine} {u v : String} {a b : Device}

/-- The devices of the network and the sessions stand under ids without blanks around them, and the
open session on a device is the one that stands for it. -/
structure Addressed (e : Engine) : Prop where
  proper : e.network.Proper
  orderly : e.Orderly
  listed : e.IsListed
  trimmed : ∀ {id : Nat} {s : Session}, e.session? id = some s → Text.trim s.uid = s.uid

/-- A session stands on the device on which it opened. -/
theorem Addressed.turn (h : e.Addressed) {t : Turn} (proper : (e.turn t).network.Proper) :
    (e.turn t).Addressed where
  proper := proper
  orderly := orderly_turn h.orderly t
  listed := isListed_turn h.orderly h.listed t
  trimmed := by
    intro id s hs
    obtain ⟨s₀, hs₀, becomes⟩ | ⟨uid, d, -, hd, -, rfl⟩ := session?_of_turn h.orderly hs
    · rw [becomes.uid, h.trimmed hs₀]
    · change Text.trim d.uid = d.uid
      rw [(h.proper _ _ (Network.device_eq_ok_iff.1 hd)).uid, Text.trim_trim]

/-- What happens to an engine is a turn: an operation is a change of the network from outside. -/
theorem exists_turn_of_happen (e : Engine) (ev : Event) : ∃ t, e.happen ev = e.turn t := by
  cases ev with
  | act a => exact ⟨.act a, rfl⟩
  | operate op => exact ⟨.edit (e.network.apply op), rfl⟩

theorem InUse.addressed (h : e.InUse) : e.Addressed := by
  obtain ⟨bootDelay, clock, advised, listener, events, rfl⟩ := h
  refine live_induction (P := Addressed) ?_ fun e ev _ h => ?_
  · refine ⟨Network.proper_empty, orderly_of_no_session rfl, isListed_of_empty rfl, fun hs => ?_⟩
    cases hs
  · have proper : (e.happen ev).network.Proper :=
      (made_happen e ev).induction h.proper fun n op _ hn => hn.apply op
    obtain ⟨t, turn⟩ := exists_turn_of_happen e ev
    rw [turn] at proper ⊢
    exact h.turn proper

/-- No session is found by an id with blanks around it. -/
theorem Addressed.sessionFor?_of_padded (h : e.Addressed) (padded : Text.trim u ≠ u) :
    e.sessionFor? u = none := by
  cases hfor : e.sessionFor? u with
  | none => rfl
  | some id =>
    obtain ⟨s, hs, rfl, -⟩ := h.listed u id hfor
    exact absurd (h.trimmed hs) padded

/-- The session that opens by a text stands on the device that the text names. -/
theorem openSession_of_device? (found : e.network.device? u = some a) :
    e.openSession u = .ok (e.sessions.length, e.turn (.act (.opens u))) ∧
      (e.turn (.act (.opens u))).session? e.sessions.length =
        some (Session.start a.uid a.kind.name a.hostname) := by
  have hd : e.network.device u = .ok a := Network.device_eq_ok_iff.2 found
  have length := length_cleared e a.uid
  constructor
  · rw [turn, act, openSession, hd]
    exact congrArg (fun id => Except.ok (id, _)) length
  · rw [turn_opens hd, session?, ← length]
    exact List.getElem?_concat_length

theorem openSession_trim (e : Engine) (u : String) :
    e.openSession (Text.trim u) = e.openSession u := by
  rw [openSession, openSession, Network.device_trim]

/-! ## The same device everywhere -/

/-- What two texts that name devices have in common with the ids of these devices, and where they
differ. -/
structure NamesAs (e : Engine) (u v : String) (a b : Device) : Prop where
  uids : a.uid = Text.trim u ∧ b.uid = Text.trim v
  /-- the same session opens on the device, which is then found by the id of the device, and by no
  text with blanks around it -/
  opens : ∃ id e', e.openSession u = .ok (id, e') ∧ e.openSession a.uid = .ok (id, e') ∧
    e'.session? id = some (Session.start a.uid a.kind.name a.hostname) ∧
    e'.sessionFor? a.uid = some id ∧
    e'.sessionFor? u = if Text.trim u = u then some id else none
  links : e.network.linksFor u = e.network.linksFor a.uid
  snapshot : e.network.snapshot u = e.network.snapshot a.uid
  exported : e.network.exportDevice u = e.network.exportDevice a.uid
  /-- a packet between the texts is one between the devices if neither has blanks around it, and
  finds no device otherwise -/
  packet : e.network.trace u v =
    if Text.trim u = u ∧ Text.trim v = v then e.network.trace a.uid b.uid
    else .ok (.lost .notFound [] "Device not found.")
  /-- which is never what becomes of a packet between the devices -/
  found : ∀ w, e.network.trace a.uid b.uid = .ok w → w.reason ≠ .notFound

/-- In an engine in use, what is read of a device by any text that names it, and the session that
opens by it, are those of the id of the device.  The open session and the ends of a packet are found
by the id itself only. -/
theorem InUse.namesAs (h : e.InUse) (hu : e.network.device? u = some a)
    (hv : e.network.device? v = some b) : e.NamesAs u v a b := by
  have addressed := h.addressed
  have uid : a.uid = Text.trim u := (addressed.proper _ _ hu).uid
  refine { uids := ⟨uid, (addressed.proper _ _ hv).uid⟩, opens := ?_, links := ?_, snapshot := ?_,
           exported := ?_, packet := addressed.proper.trace_of_named hu hv,
           found := fun w => addressed.proper.reason_ne_notFound hu hv }
  · obtain ⟨opened, there⟩ := openSession_of_device? hu
    have network : (e.turn (.act (.opens u))).network.Proper := by
      rw [turn, network_act fun _ _ line => by cases line]
      exact addressed.proper
    have later := addressed.turn network
    have found : (e.turn (.act (.opens u))).sessionFor? a.uid = some e.sessions.length :=
      later.orderly.enlisted there rfl
    refine ⟨_, _, opened, ?_, there, found, ?_⟩
    · rw [uid, openSession_trim, opened]
    · split
      · next trimmed => rw [← found, uid, trimmed]
      · next padded => exact later.sessionFor?_of_padded padded
  · rw [uid, Network.linksFor_trim]
  · rw [uid, Network.snapshot_trim]
  · rw [uid, Network.exportDevice_trim]

/-- A router that is named with blanks around its id.  Its session is not found by this text, and a
packet from the router to itself gets lost. -/
theorem InUse.namesAs_router :
    let e : Engine :=
      live { network := Network.empty, bootDelay := usualBootDelay }
        [.operate (.addDevice { uid := "R1", kind := .text "ROUTER", address := .text "10.0.0.1" })]
    e.InUse ∧ ∃ a, e.network.device? " R1 " = some a ∧ e.NamesAs " R1 " " R1 " a a ∧
      (∃ id e', e.openSession " R1 " = .ok (id, e') ∧ e'.sessionFor? "R1" = some id ∧
        e'.sessionFor? " R1 " = none) ∧
      e.network.trace " R1 " " R1 " = .ok (.lost .notFound [] "Device not found.") ∧
      e.network.trace "R1" "R1" = .ok (.arrived ["R1"] "10.0.0.1" "10.0.0.1") := by
  intro e
  have inUse : e.InUse := ⟨_, _, _, _, _, rfl⟩
  have there : (e.network.device? " R1 ").map Device.uid = some "R1" := by decide +kernel
  obtain ⟨a, ha, uid⟩ := Option.map_eq_some_iff.1 there
  have names := InUse.namesAs inUse ha ha
  have padded : ¬ Text.trim " R1 " = " R1 " := by decide +kernel
  obtain ⟨id, e', opened, -, -, found, lost⟩ := names.opens
  rw [uid] at found
  rw [if_neg padded] at lost
  refine ⟨inUse, a, ha, names, ⟨id, e', opened, found, lost⟩, ?_, by decide +kernel⟩
  rw [names.packet, if_neg fun trimmed => padded trimmed.1]

end Engine

end NetLab
