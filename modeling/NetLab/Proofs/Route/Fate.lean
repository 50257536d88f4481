import NetLab.Proofs.Network.Operation
import NetLab.Route.Trace

set_option autoImplicit false

/-!
# What the fate of a packet depends on

A packet meets the links, and of every device its id, whether it is down, whether it routes, its
address, and its label.  The label is only written into the message of a verdict: without it the
fate is the same up to the message (`Network.Alike.trace_wordless`).  That a packet is not found
depends on its ends alone (`Route.reason_trace`).
-/

namespace NetLab

namespace Route

variable {ν : Type}

/-- A verdict without its message: whether the packet arrived, its path, the number of hops, and the
reason. -/
def Verdict.wordless (v : Verdict ν) : Verdict ν := { v with message := "" }

/-- A host without its label. -/
def Host.unlabelled (h : Host ν) : Host ν := { h with label := .null }

theorem anyRoutes_unlabelled (hs : List (Host ν)) :
    anyRoutes (hs.map Host.unlabelled) = anyRoutes hs := by
  induction hs with
  | nil => rfl
  | cons h hs ih =>
    rw [List.map_cons, anyRoutes, anyRoutes, ih]
    rfl

/-- Which of the hosts on a path is down does not depend on labels. -/
theorem find?_isDown_unlabelled (hs : List (Host ν)) :
    (hs.map Host.unlabelled).find? (·.isDown) = (hs.find? (·.isDown)).map Host.unlabelled :=
  List.find?_map ..

theorem deliver_unlabelled (path : List ν) (hs : List (Host ν)) (sourceIp targetIp : String) :
    (deliver path (hs.map Host.unlabelled) sourceIp targetIp).map Verdict.wordless =
      (deliver path hs sourceIp targetIp).map Verdict.wordless := by
  rw [deliver, deliver, find?_isDown_unlabelled, anyRoutes_unlabelled]
  cases hs.find? (·.isDown) with
  | some h => rfl
  | none => rfl

/-- A packet that has a path is not lost for want of an end. -/
theorem reason_deliver {path : List ν} {onPath : List (Host ν)} {sourceIp targetIp : String}
    {v : Verdict ν} (h : deliver path onPath sourceIp targetIp = .ok v) :
    v.reason ≠ .notFound := by
  rw [deliver] at h
  split at h
  · cases h
    exact nofun
  · dsimp only at h
    -- whether the subnets or a device on the path settle it, the packet arrives or is not routed
    split at h
    all_goals
      obtain ⟨routed, -, h⟩ := bind_eq_ok_iff.1 h
      cases routed
      all_goals
        cases h
        exact nofun

variable [BEq ν]

theorem host?_unlabelled (hs : List (Host ν)) (uid : ν) :
    host? (hs.map Host.unlabelled) uid = (host? hs uid).map Host.unlabelled := by
  rw [host?, ← List.map_reverse, List.find?_map]
  rfl

/-- The fate of a packet, but for its message, does not depend on the labels of the hosts. -/
theorem trace_unlabelled (hs : List (Host ν)) (pathOf : ν → ν → Except Fault (Option (List ν)))
    (source target : ν) :
    (trace (hs.map Host.unlabelled) pathOf source target).map Verdict.wordless =
      (trace hs pathOf source target).map Verdict.wordless := by
  have onPath : ∀ path : List ν, path.filterMap (host? (hs.map Host.unlabelled)) =
      (path.filterMap (host? hs)).map Host.unlabelled := by
    intro path
    rw [List.map_filterMap, funext (host?_unlabelled hs)]
  rw [trace, trace, host?_unlabelled, host?_unlabelled]
  cases host? hs source with
  | none => rfl
  | some src =>
    cases host? hs target with
    | none => rfl
    | some dst =>
      dsimp only [Option.map_some]
      rw [show address? src.unlabelled = address? src from rfl,
        show address? dst.unlabelled = address? dst from rfl]
      cases address? src with
      | error f => rfl
      | ok sourceIp =>
        cases sourceIp with
        | none => rfl
        | some sourceIp =>
          cases address? dst with
          | error f => rfl
          | ok targetIp =>
            cases targetIp with
            | none => rfl
            | some targetIp =>
              cases pathOf source target with
              | error f => rfl
              | ok path =>
                cases path with
                | none => rfl
                | some path =>
                  change (deliver path _ _ _).map _ = (deliver path _ _ _).map _
                  rw [onPath, deliver_unlabelled]

/-! ## Packets that are not found -/

/-- A packet is not found exactly if one of its ends is no host. -/
theorem reason_trace {hosts : List (Host ν)} {pathOf : ν → ν → Except Fault (Option (List ν))}
    {source target : ν} {v : Verdict ν} (h : trace hosts pathOf source target = .ok v) :
    v.reason = .notFound ↔ host? hosts source = none ∨ host? hosts target = none := by
  rw [trace] at h
  cases hsource : host? hosts source with
  | none =>
    rw [hsource] at h
    cases h
    exact iff_of_true rfl (Or.inl rfl)
  | some src =>
    cases htarget : host? hosts target with
    | none =>
      rw [hsource, htarget] at h
      cases h
      exact iff_of_true rfl (Or.inr rfl)
    | some dst =>
      rw [hsource, htarget] at h
      refine iff_of_false ?_ (by simp)
      obtain ⟨sourceIp, -, h⟩ := bind_eq_ok_iff.1 h
      cases sourceIp with
      | none =>
        cases h
        exact nofun
      | some sourceIp =>
        obtain ⟨targetIp, -, h⟩ := bind_eq_ok_iff.1 h
        cases targetIp with
        | none =>
          cases h
          exact nofun
        | some targetIp =>
          obtain ⟨path, -, h⟩ := bind_eq_ok_iff.1 h
          cases path with
          | none =>
            cases h
            exact nofun
          | some path => exact reason_deliver h

end Route

namespace Network

/-! ## Networks that look the same -/

section

variable {β γ : Type} {look : Device → β} {n m k : Network}

/-- The networks have the same links, and devices in the same order that look the same. -/
structure Alike (look : Device → β) (n m : Network) : Prop where
  links : m.links = n.links
  devices : m.devices.values.map look = n.devices.values.map look

theorem Alike.refl (n : Network) : n.Alike look n := ⟨rfl, rfl⟩

theorem Alike.trans (h : n.Alike look m) (h' : m.Alike look k) : n.Alike look k :=
  ⟨h'.links.trans h.links, h'.devices.trans h.devices⟩

/-- Networks that look the same look the same from further away. -/
theorem Alike.map (h : n.Alike look m) (f : β → γ) : n.Alike (fun d => f (look d)) m where
  links := h.links
  devices := by
    have devices := congrArg (List.map f) h.devices
    simpa only [List.map_map, Function.comp_def] using devices

/-- A change of one device that cannot be seen leaves networks looking the same. -/
theorem alike_alter {uid : String} {f : Device → Device} (hf : ∀ d, look (f d) = look d) :
    n.Alike look (n.alter uid f) where
  links := rfl
  devices := by
    rw [alter, Roster.modify, Roster.mapValues, Roster.values, Roster.values]
    simp only [List.map_map, Function.comp_def]
    refine List.map_congr_left fun e _ => ?_
    split
    · exact hf e.2
    · rfl

theorem alike_update {uid : String} {f : Device → Device} (h : n.update uid f = .ok m)
    (hf : ∀ d, look (f d) = look d) : n.Alike look m := by
  obtain ⟨-, rfl⟩ := update_eq_ok_iff.1 h
  exact alike_alter hf

end

/-! ## Fates in networks that look the same -/

variable {n m : Network}

open Route

/-- What a packet meets of a device, but for the label. -/
def faceOf (d : Device) : Host String := (Host.ofDevice d).unlabelled

theorem Alike.unlabelled (h : n.Alike Host.ofDevice m) : n.Alike faceOf m :=
  h.map Host.unlabelled

/-- Packets fare alike in networks in which they meet the same. -/
theorem Alike.trace (h : n.Alike Host.ofDevice m) (source target : String) :
    m.trace source target = n.trace source target := by
  rw [Network.trace, Network.trace, h.devices, h.links]

/-- Labels are seen in messages only. -/
theorem Alike.trace_wordless (h : n.Alike faceOf m) (source target : String) :
    (m.trace source target).map Verdict.wordless =
      (n.trace source target).map Verdict.wordless := by
  have faces : (m.devices.values.map Host.ofDevice).map Host.unlabelled =
      (n.devices.values.map Host.ofDevice).map Host.unlabelled := by
    rw [List.map_map, List.map_map]
    exact h.devices
  rw [Network.trace, Network.trace, ← trace_unlabelled (m.devices.values.map Host.ofDevice),
    ← trace_unlabelled (n.devices.values.map Host.ofDevice), faces, h.links]

/-- A packet between two values has the fate of one between the ids that they are, if they are
ids. -/
theorem traceValues_eq (n : Network) (source target : Value) :
    n.traceValues source target = (do
      let s ← source.textKey
      let t ← target.textKey
      (s.bind fun s => t.map (n.trace s)).getD
        (.ok (.lost .notFound [] "Device not found."))) := by
  rw [traceValues]
  cases source.textKey with
  | error f => rfl
  | ok s =>
    cases target.textKey with
    | error f => rfl
    | ok t => cases s <;> cases t <;> rfl

theorem Alike.traceValues (h : n.Alike Host.ofDevice m) (source target : Value) :
    m.traceValues source target = n.traceValues source target := by
  have same : m.trace = n.trace := funext fun s => funext fun t => h.trace s t
  rw [traceValues_eq, traceValues_eq, same]

theorem Alike.traceValues_wordless (h : n.Alike faceOf m) (source target : Value) :
    (m.traceValues source target).map Verdict.wordless =
      (n.traceValues source target).map Verdict.wordless := by
  rw [traceValues_eq, traceValues_eq]
  cases source.textKey with
  | error f => rfl
  | ok s =>
    cases target.textKey with
    | error f => rfl
    | ok t =>
      cases s with
      | none => rfl
      | some s =>
        cases t with
        | none => rfl
        | some t => exact h.trace_wordless s t

end Network

end NetLab
