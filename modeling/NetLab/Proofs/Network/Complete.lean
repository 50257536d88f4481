import NetLab.Proofs.Network.Build

set_option autoImplicit false

/-!
# Readings that come to an end

A reading completes if it comes to a result whatever it is read into.  The settings of a device
complete as soon as the whole numbers among them are whole numbers (`Fields.CompleteDevice`), so
whether a device whose kind and state are known is read depends on its id alone: it is unless the id
is blank.
-/

namespace NetLab

/-! ## Ways to complete -/

namespace Reading

variable {σ τ α β : Type} {r : Reading σ α} {f : α → Reading σ β}

/-- The reading comes to a result from every state. -/
def Completes (r : Reading σ α) : Prop := ∀ s, Succeeds (r.run s).1

theorem completes_pure (a : α) : Completes (pure a : Reading σ α) := fun _ => succeeds_ok a

theorem completes_modify (f : σ → σ) : Completes (modify f : Reading σ PUnit) :=
  fun _ => succeeds_ok _

theorem completes_lift {x : Except Fault α} (h : Succeeds x) : Completes (lift x : Reading σ α) :=
  fun _ => h

theorem completes_bind (hr : Completes r) (hf : ∀ a, Completes (f a)) : Completes (r >>= f) := by
  intro s
  obtain ⟨a, ha⟩ := hr s
  rw [run_bind_of_ok (a := a) (t := (r.run s).2) (Prod.ext ha rfl)]
  exact hf a _

theorem completes_get_bind {f : σ → Reading σ β} (hf : ∀ s, Completes (f s)) :
    Completes (get >>= f) :=
  completes_bind (fun s => succeeds_ok s) hf

theorem completes_part {r : Reading τ α} (get : σ → τ) (set : τ → σ → σ) (h : Completes r) :
    Completes (part get set r) := fun s => h (get s)

end Reading

open Reading

/-! ## Settings -/

/-- The record of an interface has whole numbers for VLAN ids. -/
structure Fields.CompleteInterface (fs : Fields) : Prop where
  accessVlan : ∃ vlan, Value.field? "accessVlan" fs = some (.int vlan)
  nativeVlan : ∃ vlan, Value.field? "nativeVlan" fs = some (.int vlan)

/-- The record of a device has whole numbers where it has numbers, and VLAN ids that can be read. -/
structure Fields.CompleteDevice (fs : Fields) : Prop where
  displayVlan : Value.field "displayVlanTag" fs = .null ∨
    ∃ vlan, Value.field "displayVlanTag" fs = .int vlan
  vlans : ∀ es, Value.field "vlanTable" fs = .object es →
    ∀ e ∈ es, Succeeds (readNumeral e.1)
  interfaces : ∀ es, Value.field "interfaceTable" fs = .object es → ∀ e ∈ es, ∀ is,
    e.2 = .object is → Fields.CompleteInterface is

theorem Interface.completes_read {fs : Fields} (h : fs.CompleteInterface) :
    Completes (Interface.read fs) := by
  have whole : ∀ {name : String} (set : Value), (∃ vlan, Value.field? name fs = some (.int vlan)) →
      Succeeds (fs.intOr name set) := by
    rintro name set ⟨vlan, hvlan⟩
    rw [Fields.intOr, hvlan]
    exact succeeds_ok _
  refine completes_bind (completes_modify _) fun _ => completes_get_bind fun i => ?_
  refine completes_bind (completes_lift (whole _ h.accessVlan)) fun _ => ?_
  refine completes_bind (completes_modify _) fun _ => completes_bind (completes_modify _) fun _ => ?_
  refine completes_get_bind fun i => ?_
  exact completes_bind (completes_lift (whole _ h.nativeVlan)) fun _ => completes_modify _

namespace Device

theorem succeeds_readVlans {fs : Fields} (h : ∀ e ∈ fs, Succeeds (readNumeral e.1))
    (t : Index Int Value) : Succeeds (readVlans fs t) := by
  induction fs generalizing t with
  | nil => exact succeeds_ok t
  | cons e fs ih =>
    refine succeeds_bind (h e (List.mem_cons_self ..)) fun vlan _ => ?_
    exact ih (fun x hx => h x (List.mem_cons_of_mem _ hx)) _

theorem completes_readVlanTable {v : Value}
    (h : ∀ es, v = .object es → ∀ e ∈ es, Succeeds (readNumeral e.1)) :
    Completes (readVlanTable v) := by
  cases v with
  | object fs =>
    refine completes_bind (completes_lift ?_) fun _ => completes_modify _
    exact succeeds_readVlans (h fs rfl) _
  | _ => exact completes_modify _

theorem completes_readInterfaces {fs : Fields}
    (h : ∀ e ∈ fs, ∀ is, e.2 = .object is → Fields.CompleteInterface is) :
    Completes (readInterfaces fs) := by
  induction fs with
  | nil => exact completes_pure _
  | cons e fs ih =>
    have rest := ih fun x hx => h x (List.mem_cons_of_mem _ hx)
    obtain ⟨name, v⟩ := e
    cases v with
    | object is =>
      have own := Interface.completes_read (h _ (List.mem_cons_self ..) is rfl)
      exact completes_bind (completes_part _ _ own) fun _ => rest
    | _ => exact rest

theorem completes_read {fs : Fields} (h : fs.CompleteDevice) : Completes (Device.read fs) := by
  refine completes_bind (completes_modify _) fun _ => ?_
  refine completes_bind (completes_lift ?_) fun _ => ?_
  · obtain hnull | ⟨vlan, hvlan⟩ := h.displayVlan
    · rw [hnull, if_pos rfl]
      exact succeeds_ok _
    · rw [hvlan, if_neg (by simp)]
      exact succeeds_ok _
  refine completes_bind (completes_modify _) fun _ => ?_
  refine completes_bind (completes_readVlanTable h.vlans) fun _ => ?_
  have lines : ∀ ls, Completes (modify fun d : Device => { d with lines := d.lines.read ls }) :=
    fun ls => completes_modify _
  dsimp only
  split
  · next es hes =>
    refine completes_bind (completes_readInterfaces (h.interfaces es hes)) fun _ => ?_
    split
    · exact lines _
    · exact completes_pure _
  · split
    · exact lines _
    · exact completes_pure _

end Device

/-! ## Devices -/

namespace Network

variable {n m : Network} {fs : Fields} {entry : Entry}

/-- A device whose id is not blank is added, and stands then under its id without the blanks. -/
theorem exists_addDevice {kind : Kind} {status : Status} (hn : n.Proper)
    (hkind : readKind entry.kind = .ok kind) (hstatus : readStatus entry.status = .ok status)
    (named : Text.trim entry.uid ≠ "") :
    ∃ d m, n.addDevice entry = .ok (d, m) ∧ d.uid = Text.trim entry.uid ∧ m.links = n.links ∧
      ∀ k, m.devices.contains k = true ↔
        k = Text.trim entry.uid ∨ n.devices.contains k = true := by
  cases hget : n.devices.get? (Text.trim entry.uid) with
  | some d =>
    have found : n.addDevice entry = .ok (d, n) := by
      rw [addDevice]
      simp only [named, hkind, hstatus, hget, if_false]
      rfl
    refine ⟨d, n, found, (hn _ d hget).uid, rfl, fun k => ⟨Or.inr, ?_⟩⟩
    rintro (rfl | h)
    · exact Roster.contains_iff.2 ⟨d, hget⟩
    · exact h
  | none =>
    let d := Device.new (Text.trim entry.uid) kind entry.label entry.address status
    have added : n.addDevice entry =
        .ok (d, { n with devices := n.devices.put (Text.trim entry.uid) d }) := by
      rw [addDevice]
      simp only [named, hkind, hstatus, hget, if_false]
      rfl
    exact ⟨d, _, added, rfl, rfl, fun k => Roster.contains_put_iff⟩

/-- A device that completes is read, and stands then under its id without the blanks. -/
theorem run_readDevice_of_completes {kind : Kind} {status : Status} (hn : n.Proper)
    (hentry : Entry.ofFields fs = .ok entry) (hkind : readKind entry.kind = .ok kind)
    (hstatus : readStatus entry.status = .ok status) (named : Text.trim entry.uid ≠ "")
    (completes : Completes (Device.read fs)) :
    ∃ m, (readDevice fs).run n = (.ok (Text.trim entry.uid), m) ∧ m.links = n.links ∧
      ∀ k, m.devices.contains k = true ↔
        k = Text.trim entry.uid ∨ n.devices.contains k = true := by
  obtain ⟨d, added, hadd, huid, hlinks, hkeys⟩ := exists_addDevice hn hkind hstatus named
  obtain ⟨proper, hget⟩ := hn.addDevice hadd
  have run := run_readDevice hentry hadd
  rw [hget, Option.getD_some] at run
  obtain ⟨u, hu⟩ := completes d
  have same : ((Device.read fs).run d).2.uid = d.uid :=
    (Device.keeps_read fs d (proper d.uid d hget)).uid
  dsimp only at run
  rw [hu, same, huid] at run
  refine ⟨_, run, hlinks, fun k => ?_⟩
  rw [Roster.contains_put_iff, hkeys k]
  exact ⟨fun h => h.elim Or.inl id, Or.inr⟩

/-- A device whose id is blank is not read, and the network stays. -/
theorem run_readDevice_of_blank (hentry : Entry.ofFields fs = .ok entry)
    (blank : Text.trim entry.uid = "") :
    (readDevice fs).run n = (.error .emptyDeviceId, n) := by
  have refused : n.addDevice entry = .error .emptyDeviceId := by
    rw [addDevice]
    dsimp only
    rw [if_pos blank]
    rfl
  rw [readDevice, run_bind_of_ok (a := entry) (t := n) (by rw [run_lift, hentry]),
    run_bind_of_ok (run_get n), run_bind_of_error (by rw [run_lift, refused])]

end Network

end NetLab
