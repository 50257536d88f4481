import NetLab.Proofs.Engine.Coherence
import NetLab.Proofs.Network.RoundTrip

set_option autoImplicit false

/-!
# Documents of a network in use

A network that was read from a document stays storable while an engine runs over it, so at any time
the document that is written of it reads back without loss.
-/

namespace NetLab.Engine

variable {e : Engine} {id : Nat}

/-- A line keeps the network storable. -/
theorem storable_execute {line : String} (h : e.IsCoherent) (hn : e.network.Storable) :
    (e.execute id line).2.network.Storable := by
  obtain hall | ⟨s, hs, hopen⟩ := closed_or_open e id
  · rwa [execute_of_closed hall]
  · obtain ⟨d, s', found, -, change, hnetwork⟩ := execute_change h hs hopen line
    rw [hnetwork]
    exact change.storable hn found

/-- Whatever happens to an engine keeps the network storable. -/
theorem storable_act (h : e.IsCoherent) (hn : e.network.Storable) (a : Act) :
    (e.act a).network.Storable := by
  by_cases hline : ∃ id text, a = .line id text
  · obtain ⟨id, text, rfl⟩ := hline
    exact storable_execute h hn
  · have other : ∀ id text, a ≠ .line id text := fun id text ha => hline ⟨id, text, ha⟩
    rwa [network_act other]

/-- A run over a storable network without sessions at the start ends with a storable one. -/
theorem storable_run (hn : e.network.Storable) (hs : e.sessions = []) (acts : List Act) :
    (e.run acts).network.Storable := by
  have start : e.IsCoherent ∧ e.network.Storable :=
    ⟨isCoherent_of_no_session hn.proper hs, hn⟩
  exact (run_induction (P := fun e => e.IsCoherent ∧ e.network.Storable) start
    (fun _ a h => ⟨isCoherent_act h.1 a, storable_act h.1 h.2 a⟩) acts).2

/-- A network is read from a document whose labels are texts, and an engine runs over it.  Whatever
happens, the document that is then written of the network reads back as a network with the same
document, the same devices in their order, and the same links with their ids. -/
theorem document_reads_back {n : Network} {doc : Value} (labels : doc.hasTextLabels = true)
    (loaded : n.importDocument doc = (.ok (), e.network)) (fresh : e.sessions = [])
    (acts : List Act) :
    let used := (e.run acts).network
    ∃ m, Network.ofDocument used.toDocument = .ok m ∧ m.toDocument = used.toDocument ∧
      m.devices.keys = used.devices.keys ∧ m.links = used.links := by
  have storable : e.network.Storable := by
    have himport := Network.storable_importDocument n labels
    rwa [loaded] at himport
  exact (storable_run storable fresh acts).ofDocument_toDocument

/-- A switch is named, and its port to a PC is put into another VLAN. -/
theorem document_reads_back_access_vlan :
    let doc : Value := .object
      [("devices", .list
        [.object [("id", .text "S1"), ("kind", .text "SWITCH_L2"), ("label", .text "Access")],
          .object [("id", .text "P1"), ("kind", .text "PC")]]),
       ("links", .list
        [.object [("id", .text "desk"), ("sourceId", .text "S1"), ("targetId", .text "P1")]])]
    let e : Engine :=
      { network := (Network.empty.importDocument doc).2, bootDelay := usualBootDelay }
    let used := (e.run [.opens "S1", .line 0 "enable", .line 0 "conf t", .line 0 "hostname core",
      .line 0 "interface g0/1", .line 0 "switchport access vlan 10"]).network
    doc.hasTextLabels = true ∧ Network.empty.importDocument doc = (.ok (), e.network) ∧
      (used.device? "P1").map Device.displayVlan = some (.int 10) ∧
      ∃ m, Network.ofDocument used.toDocument = .ok m ∧ m.toDocument = used.toDocument ∧
        m.devices.keys = used.devices.keys ∧ m.links = used.links := by
  intro doc e used
  have labels : doc.hasTextLabels = true := by decide +kernel
  have accepted : (Network.empty.importDocument doc).1 = .ok () := by decide +kernel
  have loaded : Network.empty.importDocument doc = (.ok (), e.network) := Prod.ext accepted rfl
  have tagged : (used.device? "P1").map Device.displayVlan = some (.int 10) := by decide +kernel
  exact ⟨labels, loaded, tagged, document_reads_back labels loaded rfl _⟩

end NetLab.Engine
