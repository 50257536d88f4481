import NetLab.Proofs.Console.InterfaceTable
import NetLab.Proofs.Network.VlanTables

set_option autoImplicit false

/-!
# VLANs and their ports

The VLAN table of a device and the access VLANs of its interfaces are set apart from each other, and
nothing makes them agree.  The table that `show vlan brief` prints has one row for each VLAN of the
device, in ascending order, and shares the access ports out among the rows: a port of a VLAN that is
in the table stands in the row of this VLAN and in no other, and a port of any other VLAN stands
nowhere (`Show.ListsVlans`).  As the interfaces are not asked when VLANs come and go, a VLAN that is
deleted takes its row with it, and brings the ports of the row back when it is made again
(`Show.vlanRows_erase`, `Show.filter_vlanRows_write`).
-/

namespace NetLab

/-! ## Names on one line -/

/-- The value can stand in a column, where it is shown without a line break. -/
def Value.IsLine (v : Value) : Prop := ∃ s, v.cell? = some s ∧ '\n' ∉ s.toList

instance : DecidablePred Value.IsLine := fun v =>
  decidable_of_iff (v.cell?.any fun s => '\n' ∉ s.toList) <| by
    simp [Value.IsLine, Option.any_eq_true]

/-- Interfaces have texts as names, VLANs have names that can stand in a column, and no name has a
line break. -/
structure Device.OneLine (d : Device) : Prop where
  interfaces : ∀ i ∈ d.interfaces.values, i.name = .text i.name.display ∧ i.name.IsLine
  vlans : ∀ v name, d.vlans.get? v = some name → name.IsLine

theorem Device.oneLine_iff {d : Device} : d.OneLine ↔
    (∀ i ∈ d.interfaces.values, i.name = .text i.name.display ∧ i.name.IsLine) ∧
      ∀ e ∈ d.vlans.entries, e.2.IsLine := by
  constructor
  · exact fun h => ⟨h.interfaces, fun e he => h.vlans e.1 e.2 (Index.get?_eq_some_iff.2 he)⟩
  · exact fun h => ⟨h.1, fun v name there => h.2 (v, name) (Index.get?_eq_some_iff.1 there)⟩

instance (d : Device) : Decidable d.OneLine := decidable_of_iff _ Device.oneLine_iff.symm

/-- The name of an interface has no line break. -/
theorem Device.OneLine.newline_notMem {d : Device} (h : d.OneLine) {i : Interface}
    (hi : i ∈ d.interfaces.values) : '\n' ∉ i.name.display.toList := by
  obtain ⟨isText, s, cell, whole⟩ := h.interfaces i hi
  rw [isText] at cell
  rwa [Option.some.inj cell]

namespace Text

theorem notMem_toString {c : Char} (sign : c ≠ '-') (digit : c.isDigit = false) (n : Int) :
    c ∉ (toString n).toList := by
  cases n with
  | ofNat n => exact Port.not_mem_number digit n
  | negSucc n =>
    have written : toString (Int.negSucc n) = "-" ++ toString (n + 1) := rfl
    have minus : "-".toList = ['-'] := by decide
    rw [written, String.toList_append, List.mem_append, not_or, minus]
    exact ⟨by simpa using sign, Port.not_mem_number digit (n + 1)⟩

theorem notMem_zeroPadded {c : Char} (sign : c ≠ '-') (digit : c.isDigit = false) (width : Nat)
    (n : Int) : c ∉ (zeroPadded width n).toList := by
  have zero : c ≠ '0' := by
    rintro rfl
    cases digit
  have minus : c ∉ (if n < 0 then "-" else "").toList := by
    split
    · simpa using sign
    · simp
  simp only [zeroPadded, String.toList_append, String.toList_ofList, List.mem_append, not_or,
    List.mem_replicate]
  exact ⟨⟨minus, fun h => zero h.2⟩, Port.not_mem_number digit n.natAbs⟩

end Text

theorem isLine_defaultVlanName (v : Int) : Value.IsLine (.text (defaultVlanName v)) := by
  refine ⟨_, rfl, ?_⟩
  rw [defaultVlanName, String.toList_append, List.mem_append, not_or]
  exact ⟨by decide, Text.notMem_zeroPadded (by decide) (by decide) 4 v⟩

/-- The device with another VLAN table. -/
def Device.withVlans (d : Device) (t : Index Int Value) : Device := { d with vlans := t }

namespace Device.OneLine

variable {d : Device} {v : Int}

/-- A table that loses a VLAN has no other names. -/
theorem erase (h : d.OneLine) : (d.withVlans (d.vlans.erase v)).OneLine where
  interfaces := h.interfaces
  vlans w name there := h.vlans w name (Index.get?_erase_eq_some_iff.1 there).2

/-- A VLAN that is written has the name that is given, one that was there, or the default one. -/
theorem write {name : Value} (h : d.OneLine) (first : d.vlans.contains 1 = true)
    (given : name.given = true → name.IsLine) :
    (d.withVlans (Network.writeVlan v name d.vlans)).OneLine where
  interfaces := h.interfaces
  vlans := by
    intro w called there
    rw [Device.withVlans, Network.get?_writeVlan first] at there
    split at there
    · obtain rfl := Option.some.inj there
      split
      · next named => exact given named
      · cases before : d.vlans.get? v with
        | none => exact isLine_defaultVlanName v
        | some old => exact h.vlans v old before
    · exact h.vlans w called there

end Device.OneLine

/-- A whole number that a value says is the only one. -/
theorem Value.eq_of_equals_int {x : Value} {v w : Int} (hv : x.equals (.int v) = true)
    (hw : x.equals (.int w) = true) : v = w := by
  have plain : ∀ {u : Int}, x.equals (.int u) = true → x.plain = .int u := by
    intro u hu
    have same := of_decide_eq_true (Bool.and_eq_true_iff.1 hu).2
    simpa [Value.plain] using same
  exact Value.int.inj ((plain hv).symm.trans (plain hw))

namespace Port

/-- What is replaced brings no characters but those that are put in its place. -/
theorem mem_of_mem_replaceFrom {old new cs : List Char} {skip : Nat} {c : Char}
    (h : c ∈ replaceFrom old new skip cs) : c ∈ new ∨ c ∈ cs := by
  induction cs generalizing skip with
  | nil => cases h
  | cons d cs ih =>
    have later : ∀ {k}, c ∈ replaceFrom old new k cs → c ∈ new ∨ c ∈ d :: cs :=
      fun h => (ih h).imp_right (List.mem_cons_of_mem d)
    unfold replaceFrom at h
    split at h
    · exact later h
    · split at h
      · exact (List.mem_append.1 h).elim .inl later
      · obtain rfl | h := List.mem_cons.1 h
        · exact .inr (List.mem_cons_self ..)
        · exact later h

theorem notMem_shorten {c : Char} {ifname : String} (gigabit : c ∉ "Gi".toList)
    (fast : c ∉ "Fa".toList) (h : c ∉ ifname.toList) : c ∉ (shorten ifname).toList := by
  intro there
  rw [shorten, replaceAll, String.toList_ofList] at there
  obtain new | there := mem_of_mem_replaceFrom there
  · exact fast new
  · rw [replaceAll, String.toList_ofList] at there
    exact (mem_of_mem_replaceFrom there).elim gigabit h

end Port

namespace Show

variable {d : Device} {v : Int} {i : Interface}

/-! ## Rows -/

/-- The short name under which an interface is shown. -/
def shortName (i : Interface) : String := Port.shorten i.name.display

/-- What a row of the VLAN table says: a VLAN, its name, and the access ports of the VLAN. -/
structure VlanRow where
  vlan : Int
  name : String
  ports : List Interface
  deriving DecidableEq, Repr

namespace VlanRow

/-- The names of the ports as they are printed. -/
def members (r : VlanRow) : List String := r.ports.map shortName

/-- The row as it is printed. -/
def text (r : VlanRow) : String :=
  Text.trimRight (Text.padRight 4 (toString r.vlan) ++ " " ++ Text.padRight 32 r.name ++
    " active    " ++ ", ".intercalate r.members)

end VlanRow

/-- The access ports of a VLAN, sorted by their short names. -/
def vlanPorts (d : Device) (vlan : Int) : List Interface :=
  (d.interfaces.values.filter (isMember vlan)).mergeSort fun i j =>
    decide (shortName i ≤ shortName j)

/-- The rows of the VLAN table of a device. -/
def vlanRows (d : Device) : List VlanRow :=
  d.fullVlans.entries.map fun e => ⟨e.1, e.2.cell?.getD "", vlanPorts d e.1⟩

/-- The two lines over the VLAN table. -/
def vlanHeadings : List String :=
  ["VLAN Name                             Status    Ports",
    "---- -------------------------------- --------- -------------------------------"]

/-! ## The ports of a VLAN -/

theorem isMember_iff : isMember v i = true ↔
    i.mode = .access ∧ i.accessVlan.equals (.int v) = true := by
  rw [isMember, Bool.and_eq_true, decide_eq_true_eq]

theorem vlanPorts_perm (d : Device) (v : Int) :
    (vlanPorts d v).Perm (d.interfaces.values.filter (isMember v)) := List.mergeSort_perm _ _

theorem mem_vlanPorts_iff : i ∈ vlanPorts d v ↔
    i ∈ d.interfaces.values ∧ i.mode = .access ∧ i.accessVlan.equals (.int v) = true := by
  rw [(vlanPorts_perm d v).mem_iff, List.mem_filter, isMember_iff]

/-- The names come out as the sorted names. -/
theorem map_shortName_vlanPorts (d : Device) (v : Int) : (vlanPorts d v).map shortName =
    ((d.interfaces.values.filter (isMember v)).map shortName).mergeSort fun a b =>
      decide (a ≤ b) :=
  List.map_mergeSort fun _ _ _ _ => rfl

theorem vlanPorts_congr {d' : Device} (same : d'.interfaces = d.interfaces) :
    vlanPorts d' v = vlanPorts d v := by
  rw [vlanPorts, same, vlanPorts]

/-- No interface stands twice in a device. -/
theorem nodup_interfaces {uid : String} (proper : d.Proper uid) : d.interfaces.values.Nodup := by
  have apart : (d.interfaces.values.map (·.key.plain)).Nodup := by
    have keys : d.interfaces.values.map (·.key.plain) = d.interfaces.keys := by
      rw [Roster.values, Roster.keys, List.map_map]
      exact List.map_congr_left fun e he =>
        proper.keyed e.1 e.2 (Roster.get?_eq_some_iff.2 he)
    rw [keys]
    exact d.interfaces.nodup
  exact apart.of_map

/-! ## The table -/

theorem map_vlan_vlanRows (d : Device) : (vlanRows d).map VlanRow.vlan = d.fullVlans.keys := by
  rw [vlanRows, List.map_map]
  rfl

/-- The full table has every VLAN under the name that it goes by. -/
theorem get?_fullVlans (d : Device) (v : Int) : d.fullVlans.get? v = d.vlanName? v := by
  rw [Device.fullVlans, Index.get?_putNew, Device.vlanName?]
  by_cases first : v = 1
  · rw [first]
    cases d.vlans.get? 1 <;> rfl
  · rw [if_neg first, if_neg first]
    cases d.vlans.get? v <;> rfl

theorem vlanName?_of_mem {e : Int × Value} (he : e ∈ d.fullVlans.entries) :
    d.vlanName? e.1 = some e.2 := by
  rw [← get?_fullVlans]
  exact Index.get?_eq_some_iff.2 he

theorem isLine_of_vlanName? (oneLine : d.OneLine) {name : Value} (h : d.vlanName? v = some name) :
    name.IsLine := by
  unfold Device.vlanName? at h
  split at h
  · next there => exact oneLine.vlans v name (there.trans h)
  · split at h
    · obtain rfl := Option.some.inj h
      exact ⟨firstVlanName, rfl, by decide⟩
    · cases h

/-- A row has the name of its VLAN. -/
theorem exists_name_of_mem (oneLine : d.OneLine) {r : VlanRow} (hr : r ∈ vlanRows d) :
    ∃ name, d.vlanName? r.vlan = some name ∧ name.cell? = some r.name ∧ '\n' ∉ r.name.toList := by
  obtain ⟨e, he, rfl⟩ := List.mem_map.1 hr
  have found := vlanName?_of_mem he
  obtain ⟨s, cell, whole⟩ := isLine_of_vlanName? oneLine found
  refine ⟨e.2, found, ?_⟩
  dsimp only
  rw [cell, Option.getD_some]
  exact ⟨rfl, whole⟩

theorem contains_fullVlans_iff :
    d.fullVlans.contains v = true ↔ v = 1 ∨ d.vlans.contains v = true := by
  rw [Device.fullVlans, Index.contains_iff, Index.get?_putNew, Index.contains_iff]
  by_cases first : v = 1
  · simp [first]
  · simp [first]

theorem exists_row_iff : (∃ r ∈ vlanRows d, r.vlan = v) ↔ v = 1 ∨ d.vlans.contains v = true := by
  rw [← contains_fullVlans_iff, Index.contains_iff]
  simp only [Index.get?_eq_some_iff]
  simp [vlanRows]

theorem ports_of_mem {r : VlanRow} (hr : r ∈ vlanRows d) : r.ports = vlanPorts d r.vlan := by
  obtain ⟨e, -, rfl⟩ := List.mem_map.1 hr
  rfl

/-- No VLAN has two rows. -/
theorem vlanRows_inj {r s : VlanRow} (hr : r ∈ vlanRows d) (hs : s ∈ vlanRows d)
    (same : r.vlan = s.vlan) : r = s :=
  List.inj_on_of_nodup_map (by rw [map_vlan_vlanRows]; exact d.fullVlans.nodup_keys) hr hs same

/-- The rows list the VLANs of a device, and share the access ports out among them. -/
structure ListsVlans (d : Device) (rows : List VlanRow) : Prop where
  /-- There is a row for each VLAN of the table, and one for VLAN 1 in any case. -/
  vlans : ∀ v, (∃ r ∈ rows, r.vlan = v) ↔ v = 1 ∨ d.vlans.contains v = true
  ascending : (rows.map VlanRow.vlan).Pairwise (· < ·)
  named : ∀ r ∈ rows, ∃ name, d.vlanName? r.vlan = some name ∧ name.cell? = some r.name
  mem_ports : ∀ r ∈ rows, ∀ i, i ∈ r.ports ↔
    i ∈ d.interfaces.values ∧ i.mode = .access ∧ i.accessVlan.equals (.int r.vlan) = true
  once : ∀ r ∈ rows, r.ports.Nodup
  sorted : ∀ r ∈ rows, r.members.Pairwise (· ≤ ·)
  /-- An access port of a VLAN of the table is in the row of this VLAN and in no other. -/
  placed : ∀ i ∈ d.interfaces.values, i.mode = .access → ∀ v,
    v = 1 ∨ d.vlans.contains v = true → i.accessVlan.equals (.int v) = true →
      ∃ r ∈ rows, r.vlan = v ∧ i ∈ r.ports ∧ ∀ s ∈ rows, i ∈ s.ports → s = r
  /-- A port that is no access port, or whose VLAN is not in the table, is in no row. -/
  unplaced : ∀ i, (i.mode ≠ .access ∨ ∀ v, v = 1 ∨ d.vlans.contains v = true →
    i.accessVlan.equals (.int v) = false) → ∀ r ∈ rows, i ∉ r.ports

theorem listsVlans {uid : String} (proper : d.Proper uid) (oneLine : d.OneLine) :
    ListsVlans d (vlanRows d) := by
  have members : ∀ r ∈ vlanRows d, ∀ i, i ∈ r.ports ↔ i ∈ d.interfaces.values ∧
      i.mode = .access ∧ i.accessVlan.equals (.int r.vlan) = true := by
    intro r hr i
    rw [ports_of_mem hr, mem_vlanPorts_iff]
  refine ⟨fun v => exists_row_iff, ?_, fun r hr => ?_, members, fun r hr => ?_, fun r hr => ?_,
    fun i hi access v there equal => ?_, fun i apart r hr mem => ?_⟩
  · rw [map_vlan_vlanRows]
    exact List.pairwise_map.2 d.fullVlans.sorted
  · obtain ⟨name, found, cell, -⟩ := exists_name_of_mem oneLine hr
    exact ⟨name, found, cell⟩
  · rw [ports_of_mem hr]
    exact (vlanPorts_perm d r.vlan).nodup_iff.2 ((nodup_interfaces proper).filter _)
  · rw [VlanRow.members, ports_of_mem hr, map_shortName_vlanPorts]
    exact Text.pairwise_mergeSort _
  · obtain ⟨r, hr, rfl⟩ := exists_row_iff.2 there
    refine ⟨r, hr, rfl, (members r hr i).2 ⟨hi, access, equal⟩, fun s hs mem => ?_⟩
    obtain ⟨-, -, equal'⟩ := (members s hs i).1 mem
    exact vlanRows_inj hs hr (Value.eq_of_equals_int equal' equal)
  · obtain ⟨-, access, equal⟩ := (members r hr i).1 mem
    obtain other | other := apart
    · exact other access
    · rw [other r.vlan (exists_row_iff.1 ⟨r, hr, rfl⟩)] at equal
      cases equal

/-! ## What is printed -/

theorem vlanMembers_eq (oneLine : d.OneLine) (v : Int) :
    vlanMembers d v = .ok ((vlanPorts d v).map shortName) := by
  have names : (d.interfaces.values.filter (isMember v)).mapM (·.name.strictText) =
      .ok ((d.interfaces.values.filter (isMember v)).map (·.name.display)) := by
    refine mapM_eq_ok_of_forall fun i hi => ?_
    rw [(oneLine.interfaces i (List.mem_filter.1 hi).1).1]
    rfl
  rw [vlanMembers, names, map_shortName_vlanPorts]
  change Except.ok ((List.map _ (List.map _ _)).mergeSort _) = _
  rw [List.map_map]
  rfl

theorem vlanRow_eq (oneLine : d.OneLine) {e : Int × Value} (he : e ∈ d.fullVlans.entries) :
    vlanRow d e.1 e.2 = .ok (VlanRow.text ⟨e.1, e.2.cell?.getD "", vlanPorts d e.1⟩) := by
  obtain ⟨s, cell, -⟩ := isLine_of_vlanName? oneLine (vlanName?_of_mem he)
  rw [vlanRow, vlanMembers_eq oneLine, Value.column_of_cell? cell, cell]
  rfl

/-- The table is printed from its rows. -/
theorem vlanBrief_eq (oneLine : d.OneLine) :
    vlanBrief d = .ok (vlanHeadings ++ (vlanRows d).map VlanRow.text) := by
  have rows : (d.fullVlans.entries.mapM fun e => vlanRow d e.1 e.2) =
      .ok (d.fullVlans.entries.map fun e =>
        VlanRow.text ⟨e.1, e.2.cell?.getD "", vlanPorts d e.1⟩) :=
    mapM_eq_ok_of_forall fun e he => vlanRow_eq oneLine he
  rw [vlanBrief, rows, vlanRows, List.map_map]
  rfl

/-! ## Lines that are read back -/

theorem VlanRow.newline_notMem_text {r : VlanRow} (name : '\n' ∉ r.name.toList)
    (ports : ∀ i ∈ r.ports, '\n' ∉ i.name.display.toList) : '\n' ∉ r.text.toList := by
  have listed : '\n' ∉ (", ".intercalate r.members).toList := by
    refine Text.notMem_intercalate (by decide) fun member hmember => ?_
    obtain ⟨i, hi, rfl⟩ := List.mem_map.1 hmember
    exact Port.notMem_shorten (by decide) (by decide) (ports i hi)
  refine Text.notMem_trimRight ?_
  simp only [String.toList_append, List.mem_append, not_or]
  exact ⟨⟨⟨⟨Text.notMem_padRight (by decide) 4 (Text.notMem_toString (by decide) (by decide) _),
    by decide⟩, Text.notMem_padRight (by decide) 32 name⟩, by decide⟩, listed⟩

/-- The rows are read back from what is printed. -/
theorem lines_vlanRows (oneLine : d.OneLine) :
    Text.lines (output (vlanHeadings ++ (vlanRows d).map VlanRow.text)) =
      vlanHeadings ++ (vlanRows d).map VlanRow.text := by
  refine Text.split_intercalate (by simp [vlanHeadings]) fun line hline => ?_
  obtain heading | row := List.mem_append.1 hline
  · have whole : ∀ line ∈ vlanHeadings, '\n' ∉ line.toList := by decide +kernel
    exact whole line heading
  · obtain ⟨r, hr, rfl⟩ := List.mem_map.1 row
    obtain ⟨_, -, -, name⟩ := exists_name_of_mem oneLine hr
    refine VlanRow.newline_notMem_text name fun i hi => ?_
    rw [ports_of_mem hr, mem_vlanPorts_iff] at hi
    exact oneLine.newline_notMem hi.1

/-! ## VLANs that come and go -/

theorem fullVlans_of_first (first : d.vlans.contains 1 = true) : d.fullVlans = d.vlans := by
  obtain ⟨name, there⟩ := Index.contains_iff.1 first
  exact Index.putNew_of_get? there

/-- The rows other than that of a VLAN are those of the other VLANs. -/
theorem filter_vlanRows (d : Device) (v : Int) : (vlanRows d).filter (fun r => r.vlan ≠ v) =
    (d.fullVlans.erase v).entries.map fun e => ⟨e.1, e.2.cell?.getD "", vlanPorts d e.1⟩ := by
  rw [vlanRows, List.filter_map]
  rfl

/-- A VLAN other than VLAN 1 takes its row with it, and no other. -/
theorem vlanRows_erase (first : d.vlans.contains 1 = true) (other : v ≠ 1) :
    vlanRows (d.withVlans (d.vlans.erase v)) = (vlanRows d).filter fun r => r.vlan ≠ v := by
  have kept : (d.withVlans (d.vlans.erase v)).vlans.contains 1 = true :=
    Index.contains_erase first other.symm
  rw [filter_vlanRows, vlanRows, fullVlans_of_first kept, fullVlans_of_first first]
  rfl

section

variable {name : Value} (first : d.vlans.contains 1 = true)

include first

/-- A VLAN that is written changes no row of another VLAN. -/
theorem filter_vlanRows_write :
    (vlanRows (d.withVlans (Network.writeVlan v name d.vlans))).filter (fun r => r.vlan ≠ v) =
      (vlanRows d).filter fun r => r.vlan ≠ v := by
  have kept : (d.withVlans (Network.writeVlan v name d.vlans)).vlans.contains 1 = true :=
    contains_writeVlan v name d.vlans
  have others : (Network.writeVlan v name d.vlans).erase v = d.vlans.erase v := by
    refine Index.ext_get? fun w => ?_
    rw [Index.get?_erase, Index.get?_erase, Network.get?_writeVlan first]
    split
    · rfl
    · rfl
  rw [filter_vlanRows, filter_vlanRows, fullVlans_of_first kept, fullVlans_of_first first,
    ← others]
  rfl

/-- A VLAN that is written has a row, with the ports that it would have had before. -/
theorem exists_row_write : ∃ r ∈ vlanRows (d.withVlans (Network.writeVlan v name d.vlans)),
    r.vlan = v ∧ r.ports = vlanPorts d v := by
  have there : (d.withVlans (Network.writeVlan v name d.vlans)).vlans.contains v = true :=
    Index.contains_iff.2 ⟨_, (Network.get?_writeVlan first v v name).trans (if_pos rfl)⟩
  obtain ⟨r, hr, number⟩ := exists_row_iff.2 (.inr there)
  refine ⟨r, hr, number, ?_⟩
  rw [ports_of_mem hr, number]
  rfl

end

end Show

end NetLab
