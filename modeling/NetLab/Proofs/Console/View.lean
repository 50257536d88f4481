import NetLab.Proofs.Network.Success

set_option autoImplicit false

/-!
# Tables that can be shown

Whatever a storable and typed device shows can be shown: its interfaces and links have texts to be
sorted by, and every name that is put into a column is a text.
-/

namespace NetLab

open Show

variable {d : Device} {links : List (Link String)}

/-! ## What a device has names for -/

theorem Device.Storable.key_text (h : d.Storable) :
    ∀ i ∈ d.interfaces.values, ∃ name, i.key = .text name := by
  intro i hi
  obtain ⟨k, hk⟩ := Roster.mem_values_iff.1 hi
  exact (h.interfaces k i hk).key

theorem Device.Typed.name_eq_key (h : d.Typed) : ∀ i ∈ d.interfaces.values, i.name = i.key := by
  intro i hi
  obtain ⟨k, hk⟩ := Roster.mem_values_iff.1 hi
  exact (h.interfaces k i hk).name

theorem Device.Storable.fullVlans_text (h : d.Storable) :
    ∀ e ∈ d.fullVlans.entries, ∃ name, e.2 = .text name := by
  intro e he
  have full : StorableVlans d.fullVlans :=
    h.vlans.putNew firstVlanName (isShort_of_range (by decide) (by decide))
  exact (full e.1 e.2 (Index.get?_eq_some_iff.2 he)).2

/-- The ids of stored links are texts. -/
theorem Network.Storable.id_text {n : Network} (h : n.Storable) :
    ∀ l ∈ n.links.values, ∃ id, l.id = .text id := by
  intro l hl
  obtain ⟨k, hk⟩ := Roster.mem_values_iff.1 hl
  obtain ⟨-, ⟨id, hid, -⟩, -⟩ := h.links k l hk
  exact ⟨id, hid⟩

/-- The links of a device can be brought in the order of its ports. -/
theorem Port.succeeds_sortedLinks (uid : String) (ids : ∀ l ∈ links, ∃ id, l.id = .text id) :
    Succeeds (sortedLinks uid links) :=
  Value.succeeds_sortBy fun l hl => ids l (List.mem_filter.1 hl).1

namespace Show

/-! ## Columns -/

theorem succeeds_column {v : Value} (width : Nat) (h : ∃ s, v = .text s) :
    Succeeds (v.column width) := by
  obtain ⟨s, rfl⟩ := h
  exact succeeds_ok _

theorem succeeds_interfaceRow {name ip : Value} {manual shut : Bool} (hname : ∃ s, name = .text s)
    (hip : ∃ s, ip = .text s) : Succeeds (interfaceRow name ip manual shut) := by
  refine succeeds_bind (succeeds_column 22 hname) fun called _ => ?_
  exact succeeds_bind (succeeds_column 15 hip) fun shown _ => succeeds_pure _

/-! ## Tables -/

theorem succeeds_runningConfig (hs : d.Storable) : Succeeds (runningConfig d) :=
  succeeds_bind (Value.succeeds_sortBy hs.key_text) fun _ _ => succeeds_pure _

theorem succeeds_vlanMembers (hs : d.Storable) (ht : d.Typed) (vlan : Int) :
    Succeeds (vlanMembers d vlan) := by
  refine succeeds_bind (succeeds_mapM fun i hi => ?_) fun names _ => succeeds_pure _
  have there : i ∈ d.interfaces.values := (List.mem_filter.1 hi).1
  obtain ⟨name, hkey⟩ := hs.key_text i there
  rw [ht.name_eq_key i there, hkey]
  exact succeeds_ok name

theorem succeeds_vlanBrief (hs : d.Storable) (ht : d.Typed) : Succeeds (vlanBrief d) := by
  refine succeeds_bind (succeeds_mapM fun e he => ?_) fun rows _ => succeeds_pure _
  refine succeeds_bind (succeeds_vlanMembers hs ht e.1) fun members _ => ?_
  exact succeeds_bind (succeeds_column 32 (hs.fullVlans_text e he)) fun shown _ => succeeds_pure _

/-- The interface table is about texts: names of ports and names of interfaces. -/
theorem exists_interfaceNames (hs : d.Storable) (ids : ∀ l ∈ links, ∃ id, l.id = .text id) :
    ∃ names, interfaceNames d links = .ok names ∧ ∀ v ∈ names, ∃ s, v = .text s := by
  obtain ⟨ports, hports⟩ : Succeeds (Port.map d.uid links) :=
    succeeds_bind (Port.succeeds_sortedLinks d.uid ids) fun _ _ => succeeds_pure _
  have keys : ∀ v ∈ (d.interfaces.values.map (·.key)).filter fun name =>
      !(ports.map fun p => Value.text p.1).contains name, ∃ s, v = .text s := by
    intro v hv
    obtain ⟨i, hi, rfl⟩ := List.mem_map.1 (List.mem_filter.1 hv).1
    exact hs.key_text i hi
  obtain ⟨others, hothers⟩ : Succeeds (Value.sortBy id ((d.interfaces.values.map (·.key)).filter
      fun name => !(ports.map fun p => Value.text p.1).contains name)) :=
    Value.succeeds_sortBy keys
  refine ⟨(ports.map fun p => Value.text p.1) ++ others, ?_, fun v hv => ?_⟩
  · rw [interfaceNames, bind_eq_ok_iff]
    refine ⟨ports, hports, ?_⟩
    rw [bind_eq_ok_iff]
    exact ⟨others, hothers, rfl⟩
  · rcases List.mem_append.1 hv with hv | hv
    · obtain ⟨p, -, rfl⟩ := List.mem_map.1 hv
      exact ⟨p.1, rfl⟩
    · exact keys v ((Value.perm_of_sortBy hothers).mem_iff.1 hv)

theorem succeeds_rowOf (ht : d.Typed) (name : String) : Succeeds (rowOf d (.text name)) := by
  refine succeeds_bind (succeeds_map ⟨_, Value.key_text name⟩) fun found hfound => ?_
  cases found with
  | none => exact succeeds_interfaceRow ⟨name, rfl⟩ ⟨_, rfl⟩
  | some i =>
    obtain ⟨k, -, hi⟩ := map_eq_ok_iff.1 hfound
    refine succeeds_interfaceRow ⟨name, rfl⟩ ?_
    split
    · next given =>
      -- an address that is given is no null, so it is a text
      cases hip : i.ip with
      | text s => exact ⟨s, rfl⟩
      | null =>
        rw [hip] at given
        cases given
      | _ =>
        have typed := (ht.interfaces k i hi).ip
        rw [hip] at typed
        cases typed
    · exact ⟨_, rfl⟩

theorem succeeds_interfaceBrief (hs : d.Storable) (ht : d.Typed)
    (ids : ∀ l ∈ links, ∃ id, l.id = .text id) : Succeeds (interfaceBrief d links) := by
  obtain ⟨names, hnames, texts⟩ := exists_interfaceNames hs ids
  refine succeeds_bind ⟨names, hnames⟩ fun ns hns => ?_
  obtain rfl := Except.ok.inj (hnames.symm.trans hns)
  cases names with
  | nil =>
    dsimp only
    exact succeeds_pure _
  | cons name names =>
    dsimp only
    refine succeeds_bind (succeeds_mapM fun v hv => ?_) fun rows _ => succeeds_pure _
    obtain ⟨s, rfl⟩ := texts v hv
    exact succeeds_rowOf ht s

end Show

end NetLab
