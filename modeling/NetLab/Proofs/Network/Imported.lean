import NetLab.Proofs.Network.Build
import NetLab.Proofs.Network.Storable

set_option autoImplicit false

/-!
# Imported networks are storable

Reading takes what a document says as well as it can, and always puts something there that reads
back.  The one thing that it takes as it is and that need not read back is a label that is no text,
so what a document describes is storable if its labels are texts (`Value.hasTextLabels`).
-/

namespace NetLab

open Reading

/-! ## Interfaces -/

theorem PortMode.isLegal_of_ofValue? {v : Value} {m : PortMode} (h : ofValue? v = some m) :
    m.isLegal = true := by
  rw [ofValue?] at h
  split at h
  · next legal =>
    obtain rfl := Option.some.inj h
    exact legal
  · cases h

/-- Reading an interface leaves it storable, whatever the document says. -/
theorem Interface.storable_read (fs : Fields) : Keeps Interface.Storable (Interface.read fs) := by
  have whole : ∀ {name : String} {set v : Value}, fs.intOr name set = .ok v → ∃ n, v = .int n := by
    intro name set v h
    obtain ⟨n, _, rfl⟩ := map_eq_ok_iff.1 h
    exact ⟨n, rfl⟩
  refine keeps_bind (keeps_modify fun i hi => ?_) fun _ _ _ => ?_
  · refine ⟨hi.key, ⟨_, rfl⟩, ?_, hi.accessVlan, hi.trunkAllowed, hi.nativeVlan⟩
    cases hmode : (Value.field? "switchportMode" fs).bind PortMode.ofValue? with
    | none => exact hi.mode
    | some m =>
      obtain ⟨v, _, hv⟩ := Option.bind_eq_some_iff.1 hmode
      exact PortMode.isLegal_of_ofValue? hv
  refine keeps_get_bind fun i hi => keeps_bind (keeps_lift _) (fun vlan s hvlan => ?_) i hi
  refine keeps_bind (keeps_modify fun i hi => ?_) fun _ _ _ => ?_
  · exact ⟨hi.key, hi.shutdown, hi.mode, whole hvlan, hi.trunkAllowed, hi.nativeVlan⟩
  refine keeps_bind (keeps_modify fun i hi => ?_) fun _ _ _ => ?_
  · refine ⟨hi.key, hi.shutdown, hi.mode, hi.accessVlan, ⟨_, rfl, ?_⟩, hi.nativeVlan⟩
    obtain ⟨list, hlist, named⟩ := hi.trunkAllowed
    split
    · next given => exact Value.display_ne_empty given
    · rw [hlist]
      exact named
  refine keeps_get_bind fun i hi => keeps_bind (keeps_lift _) (fun vlan s hvlan => ?_) i hi
  refine keeps_modify fun i hi => ?_
  exact ⟨hi.key, hi.shutdown, hi.mode, hi.accessVlan, hi.trunkAllowed, whole hvlan⟩

/-! ## Devices -/

namespace Device

theorem storable_readVlans {fs : Fields} {t t' : Index Int Value} (h : readVlans fs t = .ok t')
    (ht : StorableVlans t) : StorableVlans t' := by
  induction fs generalizing t with
  | nil =>
    cases h
    exact ht
  | cons f fs ih =>
    obtain ⟨vlan, hvlan, h⟩ := bind_eq_ok_iff.1 h
    exact ih h (ht.put _ (isShort_of_readNumeral hvlan))

theorem storable_readVlanTable (v : Value) : Keeps Storable (readVlanTable v) := by
  have hone : Numeral.IsShort 1 := isShort_of_range (by decide) (by decide)
  cases v with
  | object fs =>
    refine keeps_bind (keeps_lift _) fun t s ht => ?_
    have empty : StorableVlans Index.empty := fun v x hx => by cases hx
    have htable : StorableVlans t := storable_readVlans ht empty
    exact keeps_modify fun d hd => hd.withVlans (htable.putNew _ hone)
  | _ => exact keeps_modify fun d hd => hd.withVlans (hd.vlans.putNew _ hone)

theorem storable_readInterfaces (fs : Fields) : Keeps Storable (readInterfaces fs) :=
  keeps_readInterfaces_of (fun _ hd => hd.interfaces) (fun _ _ hd hi => hd.putInterface hi _)
    fun e _ settings _ => ⟨Interface.storable_new e.1, Interface.storable_read settings⟩

theorem storable_readLines (fs : Fields) {d : Device} (hd : d.Storable) :
    ({ d with lines := d.lines.read fs } : Device).Storable := by
  rw [Lines.read]
  generalize hlines : d.lines = lines
  have keep : ({ d with lines := lines } : Device).Storable := by
    rw [← hlines]
    exact hd
  clear hlines
  induction fs generalizing lines with
  | nil => exact keep
  | cons f fs ih =>
    rw [List.foldl_cons]
    refine ih _ ?_
    split
    · exact keep.setLine ⟨_, rfl⟩
    · exact keep

/-- Reading the settings of a device leaves it storable, whatever the document says. -/
theorem storable_read (fs : Fields) : Keeps Storable (Device.read fs) := by
  refine keeps_read_of (fun d hd => ?_) (fun d vlan hd whole => ?_) (storable_readVlanTable _)
    (fun es _ => storable_readInterfaces es) fun ls _ _ hd => storable_readLines ls hd
  · refine ⟨hd.label, ?_, Value.ifGiven_ifGiven _, Value.ifGiven_ifGiven _, hd.displayVlan,
      hd.vlans, hd.interfaces, hd.lines⟩
    dsimp only
    split
    · next given => exact ⟨_, rfl, Value.display_ne_empty given⟩
    · exact hd.hostname
  · exact ⟨hd.label, hd.hostname, hd.address, hd.domainName, whole, hd.vlans, hd.interfaces,
      hd.lines⟩

end Device

/-! ## Networks -/

/-- The record of a device leaves its label out, or gives a text. -/
def Fields.hasTextLabel (fs : Fields) : Bool :=
  match Value.field "label" fs with
  | .null | .text _ => true
  | _ => false

/-- Every record of a device in a document leaves its label out, or gives a text. -/
def Value.hasTextLabels : Value → Bool
  | object fs =>
    match (field "devices" fs).records with
    | .ok records => records.all Fields.hasTextLabel
    | .error _ => true
  | _ => true

theorem Fields.hasTextLabel_iff {fs : Fields} : fs.hasTextLabel = true ↔
    Value.field "label" fs = .null ∨ ∃ s, Value.field "label" fs = .text s := by
  rw [hasTextLabel]
  cases Value.field "label" fs <;> simp

namespace Network

theorem Entry.ofFields_eq_ok {fs : Fields} {entry : Entry} (h : ofFields fs = .ok entry) :
    entry.label = (Value.field "label" fs).ifGiven ∧ entry.address = .null := by
  obtain ⟨id, _, h⟩ := bind_eq_ok_iff.1 h
  cases h
  exact ⟨rfl, rfl⟩

/-- What a device is labelled with when it is added: nothing, or a text. -/
theorem labelled_of_textLabel {fs : Fields} {entry : Entry} (hfs : fs.hasTextLabel = true)
    (h : Entry.ofFields fs = .ok entry) :
    ∃ label, entry.label = .null ∨ entry.label = .text label := by
  rw [(Entry.ofFields_eq_ok h).1]
  obtain hlabel | ⟨s, hlabel⟩ := Fields.hasTextLabel_iff.1 hfs
  · exact ⟨"", Or.inl (by rw [hlabel]; rfl)⟩
  · rw [hlabel, Value.ifGiven]
    split
    · exact ⟨s, Or.inr rfl⟩
    · exact ⟨"", Or.inl rfl⟩

theorem storable_addDevice {n m : Network} {entry : Entry} {d : Device} (hn : n.Storable)
    (label : ∃ label, entry.label = .null ∨ entry.label = .text label)
    (address : entry.address = .null) (hadd : n.addDevice entry = .ok (d, m)) : m.Storable := by
  have hproper := (hn.proper.addDevice hadd).1
  obtain ⟨rfl, -⟩ | ⟨-, rfl, kind, status, -, -, hne, hd⟩ := addDevice_eq_ok hn.proper hadd
  · exact hn
  · obtain ⟨s, hs⟩ := label
    have hnew : d.Storable := by
      rw [hd, address]
      exact Device.Storable.new hne hs
    exact hn.of_devices hproper (Roster.forall_put hn.devices hnew) rfl
      fun k hk => Roster.contains_put hk

theorem storable_readDevice {fs : Fields} (hfs : fs.hasTextLabel = true) :
    Keeps Storable (readDevice fs) := by
  intro n hn
  obtain h | ⟨entry, d, m, hentry, hadd, h⟩ := readDevice_cases fs n
  · rwa [h]
  · have hproper := keeps_readDevice fs n hn.proper
    obtain ⟨hm, hget⟩ := hn.proper.addDevice hadd
    rw [h, hget, Option.getD_some] at hproper ⊢
    have start : m.Storable := storable_addDevice hn (labelled_of_textLabel hfs hentry)
      (Entry.ofFields_eq_ok hentry).2 hadd
    have read := Device.storable_read fs d (start.devices _ _ hget)
    exact start.of_devices hproper (Roster.forall_put start.devices read) rfl
      fun k hk => Roster.contains_put hk

theorem storable_addLink {n m : Network} {a b id : String} {given : Value} (hid : id ≠ "")
    (hn : n.Storable) (hadd : n.addLink a b (.text id) = .ok (given, m)) : m.Storable := by
  obtain ⟨ha, hb, ⟨hnull, -⟩ | ⟨-, k, hk, -, rfl⟩⟩ := addLink_eq_ok hadd
  · cases hnull
  · exact ⟨hn.proper.congr rfl, hn.devices,
      Roster.forall_put hn.links ⟨rfl, ⟨id, rfl, hid⟩, ha, hb⟩⟩

/-- What a document describes is storable if its labels are texts, also where reading it stops. -/
theorem storable_importDocument (n : Network) {doc : Value} (hdoc : doc.hasTextLabels = true) :
    (n.importDocument doc).2.Storable := by
  rw [importDocument, read.eq_def, run_bind_of_ok (run_set n empty)]
  split
  · next fs =>
    refine keeps_bind (keeps_lift _) (fun devices s hdevices => ?_) empty storable_empty
    have labels : ∀ r ∈ devices, Fields.hasTextLabel r = true := by
      have hrecords : (Value.field "devices" fs).records = .ok devices := hdevices
      rw [Value.hasTextLabels, hrecords] at hdoc
      exact List.all_eq_true.1 hdoc
    refine keeps_bind (keeps_readDevices fun r hr => ?_) fun _ _ _ => ?_
    · exact storable_readDevice (labels r hr)
    refine keeps_bind (keeps_lift _) fun links _ _ => ?_
    refine keeps_readLinks fun r _ => keeps_readLink _ r (fun n hn => ?_) ?_
    · exact ⟨hn.proper.congr rfl, hn.devices, hn.links⟩
    · exact fun n _ _ _ _ m _ _ hid hn hadd => storable_addLink hid hn hadd
  · exact storable_empty

end Network

end NetLab
