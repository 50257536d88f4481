import NetLab.Proofs.Console.Fate
import NetLab.Proofs.Engine.Meaning
import NetLab.Proofs.Network.Build

set_option autoImplicit false

/-!
# Lines do not reach packets

Whatever is typed in whichever sessions, a packet between two devices fares afterwards as it did
before: it takes the same path, and it arrives or is lost for the same reason.  Only the message may
be another one, and only after a line that names a device, because messages show labels.  This holds
over every network, also over one that was edited in ways in which no command edits it.
-/

namespace NetLab.Engine

open Route

variable {e : Engine} {id : Nat} {line : String}

/-! ## Steps -/

/-- A line that does not name a device leaves what packets meet. -/
theorem alike_execute (h : e.action? id line ≠ some .hostname) :
    e.network.Alike Host.ofDevice (e.execute id line).2.network := by
  cases hm : e.meaning? id line with
  | none =>
    rw [network_execute_of_none hm]
    exact .refl _
  | some m =>
    obtain ⟨c, hc, after⟩ := network_execute_of_some hm
    rw [action?, hm] at h
    rw [after, ← hc]
    exact Console.carryOut_leaves h

/-- Every line leaves what packets meet but for labels. -/
theorem faces_execute : e.network.Alike Network.faceOf (e.execute id line).2.network := by
  cases hm : e.meaning? id line with
  | none =>
    rw [network_execute_of_none hm]
    exact .refl _
  | some m =>
    obtain ⟨c, hc, after⟩ := network_execute_of_some hm
    rw [after, ← hc]
    exact Console.carryOut_faces m

theorem alike_act {a : Act} (h : e.comesTo .hostname a = false) :
    e.network.Alike Host.ofDevice (e.act a).network := by
  by_cases hline : ∃ id text, a = .line id text
  · obtain ⟨id, text, rfl⟩ := hline
    exact alike_execute (by simpa [comesTo] using h)
  · rw [network_act fun id text ha => hline ⟨id, text, ha⟩]
    exact .refl _

theorem faces_act (e : Engine) (a : Act) :
    e.network.Alike Network.faceOf (e.act a).network := by
  by_cases hline : ∃ id text, a = .line id text
  · obtain ⟨id, text, rfl⟩ := hline
    exact faces_execute
  · rw [network_act fun id text ha => hline ⟨id, text, ha⟩]
    exact .refl _

/-! ## Runs -/

theorem alike_run {acts : List Act} (h : e.avoids .hostname acts = true) :
    e.network.Alike Host.ofDevice (e.run acts).network := by
  induction acts generalizing e with
  | nil => exact .refl _
  | cons a acts ih =>
    obtain ⟨ha, hacts⟩ : e.comesTo .hostname a = false ∧ (e.act a).avoids .hostname acts = true := by
      simpa [avoids] using h
    exact (alike_act ha).trans (ih hacts)

theorem faces_run (e : Engine) (acts : List Act) :
    e.network.Alike Network.faceOf (e.run acts).network :=
  run_induction (P := fun d => e.network.Alike Network.faceOf d.network) (.refl _)
    (fun d a h => h.trans (faces_act d a)) acts

/-- A packet fares after a run as it did before: it arrives or not, over the same path with as many
hops, and for the same reason.  If no line of the run names a device, the message is the same too. -/
theorem fate_of_run (e : Engine) (acts : List Act) (source target : Value) :
    ((e.run acts).network.traceValues source target).map Verdict.wordless =
        (e.network.traceValues source target).map Verdict.wordless ∧
      (e.avoids .hostname acts = true →
        (e.run acts).network.traceValues source target =
          e.network.traceValues source target) :=
  ⟨(faces_run e acts).traceValues_wordless source target,
    fun h => (alike_run h).traceValues source target⟩

/-- The port of a PC is shut down and put into another VLAN. -/
theorem fate_of_run_shutdown :
    let e : Engine :=
      { network := Network.build [.addDevice { uid := "S1", kind := .text "SWITCH_L2" },
          .addDevice { uid := "P1", kind := .text "PC", address := .text "10.0.0.1" },
          .addDevice { uid := "P2", kind := .text "PC", address := .text "10.0.0.2" },
          .addLink "S1" "P1" .null, .addLink "S1" "P2" .null]
        bootDelay := usualBootDelay }
    let acts : List Act := [.opens "S1", .line 0 "enable", .line 0 "conf t",
      .line 0 "interface g0/1", .line 0 "shutdown", .line 0 "switchport access vlan 10"]
    e.avoids .hostname acts = true ∧
      (e.run acts).network.traceValues (.text "P1") (.text "P2") =
        e.network.traceValues (.text "P1") (.text "P2") ∧
      (e.network.traceValues (.text "P1") (.text "P2")).map (·.path) =
        .ok ["P1", "S1", "P2"] := by
  intro e acts
  have avoided : e.avoids .hostname acts = true := by decide +kernel
  have path : (e.network.traceValues (.text "P1") (.text "P2")).map (·.path) =
      .ok ["P1", "S1", "P2"] := by decide +kernel
  exact ⟨avoided, (fate_of_run e acts _ _).2 avoided, path⟩

end NetLab.Engine
