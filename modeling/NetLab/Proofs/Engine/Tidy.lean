import NetLab.Proofs.Engine.Export
import NetLab.Proofs.Engine.Fate
import NetLab.Proofs.Network.Typed

set_option autoImplicit false

/-!
# Tidy engines

An engine is tidy if its sessions suit their devices and its network is storable and typed.  An
engine over a network that was loaded from a document is tidy as long as only sessions change it,
whether they are given texts or values of any kind, and the links stay what they were.
-/

namespace NetLab.Engine

variable {e : Engine} {id : Nat}

/-- The sessions suit their devices, and every setting is one that a document may hold. -/
structure Tidy (e : Engine) : Prop where
  coherent : e.IsCoherent
  storable : e.network.Storable
  typed : e.network.Typed

namespace Tidy

theorem of_no_session (hs : e.network.Storable) (ht : e.network.Typed) (fresh : e.sessions = []) :
    e.Tidy :=
  ⟨isCoherent_of_no_session hs.proper fresh, hs, ht⟩

theorem at_clock (h : e.Tidy) (clock : Double) : ({ e with clock := clock } : Engine).Tidy :=
  ⟨⟨h.coherent.toCoherent, orderly_turn h.coherent.orderly (.clock clock)⟩, h.storable, h.typed⟩

theorem execute (h : e.Tidy) (line : String) : (e.execute id line).2.Tidy := by
  refine ⟨isCoherent_act h.coherent (.line id line), storable_execute h.coherent h.storable, ?_⟩
  obtain hall | ⟨s, hs, hopen⟩ := closed_or_open e id
  · rw [execute_of_closed hall]
    exact h.typed
  · obtain ⟨d, s', found, -, change, hnetwork⟩ := execute_change h.coherent hs hopen line
    rw [hnetwork]
    exact change.typed h.typed h.storable.proper found

theorem act (h : e.Tidy) (a : Act) : (e.act a).Tidy := by
  by_cases hline : ∃ id text, a = .line id text
  · obtain ⟨id, text, rfl⟩ := hline
    exact h.execute text
  · have same := network_act (e := e) fun id text ha => hline ⟨id, text, ha⟩
    exact ⟨isCoherent_act h.coherent a, same ▸ h.storable, same ▸ h.typed⟩

theorem run (h : e.Tidy) (acts : List Act) : (e.run acts).Tidy :=
  run_induction (P := Tidy) h (fun _ a h => h.act a) acts

theorem poll (h : e.Tidy) : (e.poll id).Tidy := h.act (.poll id)

theorem openSession {uid : String} {e' : Engine} (h : e.Tidy)
    (hok : e.openSession uid = .ok (id, e')) : e'.Tidy := by
  have opened : e.act (.opens uid) = e' := by rw [Engine.act, hok]
  rw [← opened]
  exact h.act _

/-- A line of any kind is executed as a text, or the session is only looked at. -/
theorem executeValue (h : e.Tidy) (line : Value) : (e.executeValue id line).2.Tidy := by
  rw [Engine.executeValue]
  split
  · exact h.execute _
  · split
    · exact h.poll
    · exact h.execute _

end Tidy

/-! ## Links -/

theorem links_executeValue (e : Engine) (id : Nat) (line : Value) :
    (e.executeValue id line).2.network.links = e.network.links := by
  rw [executeValue]
  split
  · exact faces_execute.links
  · split
    · exact congrArg Network.links (network_poll e id)
    · exact faces_execute.links

end NetLab.Engine
