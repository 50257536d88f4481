import NetLab.Proofs.Console.View
import NetLab.Proofs.Document.Sorted
import NetLab.Proofs.Network.Twin

set_option autoImplicit false

/-!
# Tables do not tell the order of interfaces

A device whose settings a document may hold shows the same whatever the order of its interfaces is:
every table that lists interfaces sorts them by texts, and the names of interfaces tell them apart.
-/

namespace NetLab

variable {d d' : Device} {uid : String} {links : List (Link String)}

/-! ## Interface tables -/

/-- An interface is known by its name. -/
theorem Device.Proper.eq_of_key (h : d.Proper uid) :
    ∀ i ∈ d.interfaces.values, ∀ j ∈ d.interfaces.values, i.key = j.key → i = j := by
  intro i hi j hj same
  obtain ⟨k, hk⟩ := Roster.mem_values_iff.1 hi
  obtain ⟨l, hl⟩ := Roster.mem_values_iff.1 hj
  have keys : k = l := by rw [← h.keyed k i hk, ← h.keyed l j hl, same]
  rw [keys, hl] at hk
  exact (Option.some.inj hk).symm

namespace Show

/-! ## The configuration -/

theorem runningConfig_of_twin (h : d.Twin d') (hp : d.Proper uid) (hs : d.Storable) :
    runningConfig d' = runningConfig d := by
  have sorted : d'.sortedInterfaces = d.sortedInterfaces :=
    (Value.sortBy_eq_of_perm hs.key_text hp.eq_of_key h.perm_values).symm
  rw [runningConfig, runningConfig, sorted]
  cases h
  rfl

/-! ## VLANs -/

theorem vlanMembers_of_twin (h : d.Twin d') (hs : d.Storable) (ht : d.Typed) (vlan : Int) :
    vlanMembers d' vlan = vlanMembers d vlan := by
  have named : ∀ i ∈ d.interfaces.values, i.name.strictText = .ok i.name.display := by
    intro i hi
    obtain ⟨name, hkey⟩ := hs.key_text i hi
    rw [ht.name_eq_key i hi, hkey]
    rfl
  have members : ∀ is : List Interface, (∀ i ∈ is, i ∈ d.interfaces.values) →
      (is.filter (isMember vlan)).mapM (·.name.strictText) =
        .ok ((is.filter (isMember vlan)).map (·.name.display)) := by
    intro is his
    exact mapM_eq_ok_of_forall fun i hi => named i (his i (List.mem_filter.1 hi).1)
  rw [vlanMembers, vlanMembers, members _ fun i hi => hi,
    members _ fun i hi => h.perm_values.mem_iff.2 hi]
  refine congrArg Except.ok (Text.mergeSort_eq_of_perm ?_)
  exact (((h.perm_values.symm.filter _).map _).map _)

theorem vlanBrief_of_twin (h : d.Twin d') (hs : d.Storable) (ht : d.Typed) :
    vlanBrief d' = vlanBrief d := by
  have row : vlanRow d' = vlanRow d := by
    funext vlan name
    rw [vlanRow, vlanRow, vlanMembers_of_twin h hs ht]
  have vlans : d'.fullVlans = d.fullVlans := by
    cases h
    rfl
  rw [vlanBrief, vlanBrief, row, vlans]

/-! ## Interfaces -/

theorem interfaceNames_of_twin (h : d.Twin d') (hs : d.Storable) :
    interfaceNames d' links = interfaceNames d links := by
  have others : ∀ p : Value → Bool, Value.sortBy id ((d'.interfaces.values.map (·.key)).filter p) =
      Value.sortBy id ((d.interfaces.values.map (·.key)).filter p) := by
    intro p
    refine (Value.sortBy_eq_of_perm (fun v hv => ?_) (fun _ _ _ _ same => same)
      ((h.perm_values.map _).filter _)).symm
    obtain ⟨i, hi, rfl⟩ := List.mem_map.1 (List.mem_filter.1 hv).1
    exact hs.key_text i hi
  rw [interfaceNames, interfaceNames, h.uid]
  refine congrArg (Port.map d.uid links >>= ·) (funext fun ports => ?_)
  dsimp only
  rw [others]

theorem interfaceBrief_of_twin (h : d.Twin d') (hs : d.Storable) :
    interfaceBrief d' links = interfaceBrief d links := by
  have row : rowOf d' = rowOf d := by
    funext name
    rw [rowOf, rowOf, h.interface?]
  rw [interfaceBrief, interfaceBrief, interfaceNames_of_twin h hs, row]

end Show

end NetLab
