import Mathlib.Data.List.Nodup
import Mathlib.Data.List.Perm.Basic
import NetLab.Network.Export
import NetLab.Proofs.Network.Imported

set_option autoImplicit false

/-!
# Reading a device that was written

The settings of a storable device read back one part after the other: interfaces, the VLAN table,
terminal lines, and the device with all of them.  Only the order of the interfaces is lost, because
a document orders the fields of a record by name; the document of the device is the same again.
-/

namespace NetLab

open Reading

/-! ## Runs of readings -/

namespace Reading

variable {σ α β : Type}

theorem run_modify_bind (f : σ → σ) (g : PUnit → Reading σ β) (s : σ) :
    ((modify f : Reading σ PUnit) >>= g).run s = (g ⟨⟩).run (f s) :=
  run_bind_of_ok (run_modify f s)

theorem run_get_bind (g : σ → Reading σ β) (s : σ) :
    ((get : Reading σ σ) >>= g).run s = (g s).run s :=
  run_bind_of_ok (run_get s)

theorem run_lift_bind {x : Except Fault α} {a : α} (h : x = .ok a) (g : α → Reading σ β) (s : σ) :
    (lift x >>= g).run s = (g a).run s :=
  run_bind_of_ok (by rw [run_lift, h])

end Reading

/-- The field of a record whose fields have different names. -/
theorem Value.field_record {es : List (String × Value)} (h : (es.map Prod.fst).Nodup)
    {name : String} {v : Value} (hv : (name, v) ∈ es) :
    field name (Index.ofList es).entries = v := by
  rw [field, field?_record h, (Index.find_eq_some_iff_of_nodup h).2 hv, Option.getD_some]

/-! ## Interfaces -/

namespace Interface

/-- The settings of an interface as they are written. -/
def settings (i : Interface) : Fields :=
  [("description", i.description), ("ip", i.ip), ("mask", i.mask), ("shutdown", i.shutdown),
    ("switchportMode", i.mode.value), ("accessVlan", i.accessVlan),
    ("trunkAllowedVlans", i.trunkAllowed), ("nativeVlan", i.nativeVlan)]

theorem toDocument_eq (i : Interface) :
    i.toDocument = .object (Index.ofList i.settings).entries := rfl

theorem ofValue?_value {m : PortMode} (h : m.isLegal = true) :
    PortMode.ofValue? m.value = some m := by
  cases m with
  | other v => cases h
  | _ => rfl

/-- The settings of an interface read back, whatever interface they are read into. -/
theorem run_read_settings {i : Interface} (hi : i.Storable) (j : Interface) :
    (Interface.read (Index.ofList i.settings).entries).run j =
      (.ok (), { i with key := j.key, name := j.name }) := by
  obtain ⟨-, ⟨down, hdown⟩, legal, ⟨access, haccess⟩, ⟨list, hlist, named⟩, ⟨native, hnative⟩⟩ := hi
  have find : ∀ name, Value.field? name (Index.ofList i.settings).entries =
      Index.find name i.settings := Value.field?_record (by simp [settings])
  generalize (Index.ofList i.settings).entries = fs at find
  have vlan : ∀ (name : String) (set : Value) (n : Int),
      Index.find name i.settings = some (.int n) → Fields.intOr name set fs = .ok (.int n) := by
    intro name set n h
    rw [Fields.intOr, find, h]
    rfl
  rw [Interface.read, run_modify_bind, run_get_bind,
    run_lift_bind (vlan "accessVlan" _ access (by simp [settings, Index.find, haccess])),
    run_modify_bind, run_modify_bind, run_get_bind,
    run_lift_bind (vlan "nativeVlan" _ native (by simp [settings, Index.find, hnative])),
    run_modify]
  simp [Value.field, find, settings, Index.find, hdown, haccess, hlist, hnative, named,
    ofValue?_value legal, Value.display, Value.given]

end Interface

/-! ## Interface tables -/

namespace Device

/-- An interface as it stands in a document. -/
def interfaceEntry (i : Interface) : String × Value := (i.key.fieldName, i.toDocument)

/-- The interfaces that a document lists are put behind those that are there. -/
theorem run_readInterfaces {es : Fields} {d : Device}
    (written : ∀ e ∈ es, ∃ i : Interface, i.Storable ∧ e = interfaceEntry i)
    (nodup : (es.map Prod.fst).Nodup)
    (new : ∀ e ∈ es, d.interfaces.get? (.text e.1) = none) :
    ∃ r, (readInterfaces es).run d = (.ok (), { d with interfaces := r }) ∧
      r.values.map interfaceEntry = d.interfaces.values.map interfaceEntry ++ es := by
  induction es generalizing d with
  | nil => exact ⟨d.interfaces, rfl, (List.append_nil _).symm⟩
  | cons e es ih =>
    obtain ⟨i, hi, rfl⟩ := written e (List.mem_cons_self ..)
    obtain ⟨name, hname⟩ := hi.key
    have hentry : interfaceEntry i = (name, .object (Index.ofList i.settings).entries) := by
      rw [interfaceEntry, hname, Interface.toDocument_eq]
      rfl
    -- the interface is made under its name, and then its settings are read
    generalize hback : ({ i with key := .text name, name := .text name } : Interface) = back
    have hsame : interfaceEntry back = interfaceEntry i := by
      rw [hentry, ← hback]
      rfl
    have free : d.interfaces.get? (.text name) = none := by
      have hnew := new _ (List.mem_cons_self ..)
      rwa [hentry] at hnew
    have first : (readInterface name (Index.ofList i.settings).entries).run d =
        (.ok (), { d with interfaces := d.interfaces.put (.text name) back }) := by
      rw [readInterface, run_part, free, Option.getD_none, Interface.run_read_settings hi, ← hback]
      rfl
    rw [List.map_cons, List.nodup_cons, hentry] at nodup
    have fresh : ∀ x ∈ es, (d.interfaces.put (.text name) back).get? (.text x.1) = none := by
      intro x hx
      have hne : x.1 ≠ name := fun heq => nodup.1 (List.mem_map.2 ⟨x, hx, heq⟩)
      rw [Roster.get?_put, if_neg (by simpa using hne)]
      exact new x (List.mem_cons_of_mem _ hx)
    obtain ⟨r, hrun, hvalues⟩ := ih
      (d := { d with interfaces := d.interfaces.put (.text name) back })
      (fun x hx => written x (List.mem_cons_of_mem _ hx)) nodup.2 fresh
    refine ⟨r, ?_, ?_⟩
    · rw [hentry, readInterfaces, run_bind_of_ok first, hrun]
    · rw [hvalues, Roster.values_put_of_none free, List.map_append, List.append_assoc,
        List.map_singleton, hsame]
      rfl

/-- Interfaces stand under their names, so a document lists no name twice. -/
theorem nodup_interfaceEntry {d : Device} {uid : String} (hp : d.Proper uid)
    (storable : ∀ k i, d.interfaces.get? k = some i → i.Storable) :
    ((d.interfaces.values.map interfaceEntry).map Prod.fst).Nodup := by
  have key : ∀ e ∈ d.interfaces.entries, e.1 = .text e.2.key.fieldName := by
    intro e he
    have hget : d.interfaces.get? e.1 = some e.2 := Roster.get?_eq_some_iff.2 he
    obtain ⟨name, hname⟩ := (storable _ _ hget).key
    rw [← hp.keyed _ _ hget, hname]
    rfl
  have hkeys : d.interfaces.entries.map Prod.fst =
      ((d.interfaces.values.map interfaceEntry).map Prod.fst).map Value.text := by
    rw [Roster.values, List.map_map, List.map_map, List.map_map]
    exact List.map_congr_left key
  have hnodup := d.interfaces.nodup
  rw [hkeys] at hnodup
  exact List.Nodup.of_map _ hnodup

/-- The interface table of a storable device reads back as a table with the same document. -/
theorem run_readInterfaces_written {d x : Device} {uid : String} (hp : d.Proper uid)
    (storable : ∀ k i, d.interfaces.get? k = some i → i.Storable)
    (hx : x.interfaces = Roster.empty) :
    ∃ r, (readInterfaces (Index.ofList (d.interfaces.values.map interfaceEntry)).entries).run x =
        (.ok (), { x with interfaces := r }) ∧
      interfaceDocument r = interfaceDocument d.interfaces := by
  have nodup := nodup_interfaceEntry hp storable
  have written : ∀ e ∈ (Index.ofList (d.interfaces.values.map interfaceEntry)).entries,
      ∃ i : Interface, i.Storable ∧ e = interfaceEntry i := by
    intro e he
    obtain ⟨i, hi, rfl⟩ := List.mem_map.1 ((Index.mem_entries_ofList nodup).1 he)
    obtain ⟨k, hk⟩ := Roster.mem_values_iff.1 hi
    exact ⟨i, storable k i hk, rfl⟩
  obtain ⟨r, hrun, hvalues⟩ := run_readInterfaces (d := x) written (Index.nodup_keys _)
    fun e _ => by rw [hx]; rfl
  refine ⟨r, hrun, ?_⟩
  change Value.object (Index.ofList (r.values.map interfaceEntry)).entries =
    .object (Index.ofList (d.interfaces.values.map interfaceEntry)).entries
  rw [hvalues, hx]
  exact congrArg (fun t : Index String Value => Value.object t.entries) (Index.ofList_entries _)

/-! ## VLAN tables -/

/-- A VLAN as it stands in a document. -/
def vlanEntry (e : Int × Value) : String × Value := (toString e.1, e.2)

/-- VLANs that a document lists are put into the table one by one. -/
theorem readVlans_map {ps : List (Int × Value)} {t : Index Int Value}
    (written : ∀ p ∈ ps, Numeral.IsShort p.1 ∧ ∃ s, p.2 = .text s) :
    readVlans (ps.map vlanEntry) t = .ok (ps.foldl (fun t p => t.put p.1 p.2) t) := by
  induction ps generalizing t with
  | nil => rfl
  | cons p ps ih =>
    obtain ⟨short, s, hs⟩ := written p (List.mem_cons_self ..)
    have hput : Value.text p.2.display = p.2 := by
      rw [hs]
      rfl
    rw [List.map_cons, vlanEntry, readVlans, readNumeral_toString short]
    change readVlans (ps.map vlanEntry) (t.put p.1 (.text p.2.display)) = _
    rw [ih fun x hx => written x (List.mem_cons_of_mem _ hx), hput, List.foldl_cons]

/-- The VLAN table of a storable device reads back. -/
theorem readVlans_written {t : Index Int Value} (ht : StorableVlans t) :
    readVlans (Index.ofList (t.entries.map vlanEntry)).entries Index.empty = .ok t := by
  have short : ∀ p ∈ t.entries, Numeral.IsShort p.1 ∧ ∃ s, p.2 = .text s :=
    fun p hp => ht p.1 p.2 (Index.get?_eq_some_iff.2 hp)
  have nodup : ((t.entries.map vlanEntry).map Prod.fst).Nodup := by
    rw [List.map_map]
    refine List.Nodup.map_on (fun p hp q hq heq => ?_) (List.Nodup.of_map _ t.nodup_keys)
    have hid : p.1 = q.1 := by
      have hread := readNumeral_toString (short p hp).1
      have hsame : toString p.1 = toString q.1 := heq
      rw [hsame, readNumeral_toString (short q hq).1] at hread
      exact (Except.ok.inj hread).symm
    have hp' := Index.get?_eq_some_iff.2 (show (p.1, p.2) ∈ t.entries from hp)
    have hq' := Index.get?_eq_some_iff.2 (show (q.1, q.2) ∈ t.entries from hq)
    rw [hid, hq'] at hp'
    exact Prod.ext hid (Option.some.inj hp').symm
  -- a document lists the same VLANs, in the order of their texts
  obtain ⟨ps, hps, hperm⟩ : ∃ ps : List (Int × Value),
      (Index.ofList (t.entries.map vlanEntry)).entries = ps.map vlanEntry ∧ ps.Perm t.entries := by
    have both : Relation.Comp (fun fs ps => fs = ps.map vlanEntry) List.Perm
        (Index.ofList (t.entries.map vlanEntry)).entries t.entries := by
      rw [List.eq_map_comp_perm]
      exact Index.perm_entries_ofList nodup
    exact both
  rw [hps, readVlans_map fun p hp => short p (hperm.mem_iff.1 hp)]
  change Except.ok (Index.ofList ps) = _
  have hkeys : (ps.map Prod.fst).Nodup := (hperm.map Prod.fst).nodup_iff.2 t.nodup_keys
  rw [Index.ofList_congr hkeys t.nodup_keys fun e => hperm.mem_iff, Index.ofList_entries]

/-- The VLAN table of a storable device reads back as it was, VLAN 1 included. -/
theorem run_readVlanTable_written {t : Index Int Value} (ht : StorableVlans t)
    (first : t.contains 1 = true) (x : Device) :
    (readVlanTable (vlanDocument t)).run x = (.ok (), { x with vlans := t }) := by
  have read : readVlans (Index.ofList (t.entries.map vlanEntry)).entries Index.empty = .ok t :=
    readVlans_written ht
  obtain ⟨name, hname⟩ := Index.contains_iff.1 first
  change (readVlanTable (.object (Index.ofList (t.entries.map vlanEntry)).entries)).run x = _
  rw [readVlanTable, run_lift_bind read, run_modify, Index.putNew_of_get? hname]

end Device

/-! ## Terminal lines -/

/-- The settings of a terminal line as they are written. -/
def Line.settings (l : Line) : Fields := [("password", l.password), ("login", l.login)]

theorem Line.ofFields_settings {l : Line} (h : ∃ required, l.login = .bool required) :
    ofFields (Index.ofList l.settings).entries = l := by
  obtain ⟨required, hlogin⟩ := h
  have nodup : (l.settings.map Prod.fst).Nodup := by simp [settings]
  have password : Value.field "password" (Index.ofList l.settings).entries = l.password :=
    Value.field_record nodup (by simp [settings])
  have login : Value.field "login" (Index.ofList l.settings).entries = l.login :=
    Value.field_record nodup (by simp [settings])
  rw [ofFields, password, login, hlogin, Value.given, ← hlogin]

/-- Two terminal lines as they stand in a document. -/
theorem Lines.record_toList {t : Lines} {a b : Line} (ha : t.get? .console = some a)
    (hb : t.get? .vty = some b) :
    Value.record (t.toList.map fun e => (e.1.name, e.2.toDocument)) =
      .object [("console", a.toDocument), ("vty", b.toDocument)] := by
  have list : t.toList = [(.console, a), (.vty, b)] := by simp [toList, ha, hb]
  have ordered : "console" < "vty" := by decide
  rw [list]
  exact congrArg (fun t : Index String Value => Value.object t.entries)
    (Index.ofList_entries ⟨_, List.pairwise_pair.2 ordered⟩)

/-- Two terminal lines read back, whatever lines they are read into. -/
theorem Lines.read_written {t : Lines}
    (ht : ∀ name, ∃ l, t.get? name = some l ∧ ∃ required, l.login = .bool required) (u : Lines) :
    u.read (Index.ofList (t.toList.map fun e => (e.1.name, e.2.toDocument))).entries = t := by
  obtain ⟨a, ha, hconsole⟩ := ht .console
  obtain ⟨b, hb, hvty⟩ := ht .vty
  have both : t = { console := some a, vty := some b } := by
    rw [← ha, ← hb]
    rfl
  rw [Value.object.inj (Lines.record_toList ha hb), both]
  change Lines.mk (some (Line.ofFields (Index.ofList a.settings).entries))
    (some (Line.ofFields (Index.ofList b.settings).entries)) = _
  rw [Line.ofFields_settings hconsole, Line.ofFields_settings hvty]

/-! ## Devices -/

namespace Device

/-- The settings of a device as they are written. -/
def settings (d : Device) : Fields :=
  [("id", .text d.uid), ("kind", .text d.kind.name), ("label", d.label),
    ("status", .text d.status.name), ("managementIp", d.address), ("hostname", d.hostname),
    ("domainName", d.domainName), ("ipRouting", .bool d.routing),
    ("displayVlanTag", d.displayVlan), ("vlanTable", vlanDocument d.vlans),
    ("interfaceTable", interfaceDocument d.interfaces),
    ("lines", .record (d.lines.toList.map fun e => (e.1.name, e.2.toDocument)))]

theorem field_settings {d : Device} {name : String} {v : Value} (h : (name, v) ∈ d.settings) :
    Value.field name (Index.ofList d.settings).entries = v :=
  Value.field_record (by simp [settings]) h

/-- The settings of the device can be read, as far as they are given: numbers are whole and short
enough, and both terminal lines are there. -/
structure Legible (d : Device) : Prop where
  hostname : ∃ name, d.hostname = .text name
  displayVlan : d.displayVlan = .null ∨ ∃ vlan, d.displayVlan = .int vlan
  vlans : StorableVlans d.vlans
  interfaces : ∀ k i, d.interfaces.get? k = some i → i.Storable
  lines : ∀ name, ∃ l, d.lines.get? name = some l ∧ ∃ required, l.login = .bool required

/-- The device as it comes back from its document: the label stands in for a host name that is not
given, and the id for a label. -/
def filled (d : Device) : Device :=
  let label := if d.label.given then d.label else .text d.uid
  { d with
    label
    hostname := if d.hostname.given then d.hostname else label
    address := d.address.ifGiven
    domainName := d.domainName.ifGiven }

theorem Storable.legible {d : Device} (h : d.Storable) : d.Legible := by
  obtain ⟨name, hostname, -⟩ := h.hostname
  exact ⟨⟨name, hostname⟩, h.displayVlan, h.vlans, h.interfaces, h.lines⟩

/-- Nothing has to be filled in for a storable device. -/
theorem Storable.filled_eq {d : Device} (h : d.Storable) : d.filled = d := by
  obtain ⟨name, hostname, named⟩ := h.hostname
  have given : d.hostname.given = true := by simpa [hostname, Value.given] using named
  rw [filled, h.label, given, h.address, h.domainName]
  rfl

/-- The VLAN tag that is written is read as it is. -/
theorem readTag_settings {d : Device} (hd : d.Legible) :
    (if Value.field "displayVlanTag" (Index.ofList d.settings).entries = .null
      then Except.ok Value.null
      else (Value.field "displayVlanTag" (Index.ofList d.settings).entries).toInt.map Value.int) =
      .ok d.displayVlan := by
  rw [field_settings (show ("displayVlanTag", d.displayVlan) ∈ d.settings by simp [settings])]
  obtain hnull | ⟨vlan, hvlan⟩ := hd.displayVlan
  · rw [hnull, if_pos rfl]
  · rw [hvlan, if_neg (by simp)]
    rfl

/-- The first settings that are read into a new device; the others are still those of any new
device. -/
theorem new_settings {d : Device} (hd : d.Legible) {fs : Fields}
    (hfs : fs = (Index.ofList d.settings).entries) :
    ({ Device.new d.uid d.kind d.label .null d.status with
      address := (Value.field "managementIp" fs).ifGiven
      hostname := if (Value.field "hostname" fs).given
        then .text (Value.field "hostname" fs).display
        else (Device.new d.uid d.kind d.label .null d.status).hostname
      domainName := (Value.field "domainName" fs).ifGiven
      routing := (Value.field "ipRouting" fs).given } : Device) =
      { d.filled with vlans := Index.empty.put 1 (.text firstVlanName), interfaces := Roster.empty,
                      lines := {}, displayVlan := .null } := by
  obtain ⟨name, hname⟩ := hd.hostname
  have hostname : Value.field "hostname" fs = .text name := by
    rw [hfs]
    exact field_settings (by simp [settings, hname])
  have address : Value.field "managementIp" fs = d.address := by
    rw [hfs]
    exact field_settings (by simp [settings])
  have domainName : Value.field "domainName" fs = d.domainName := by
    rw [hfs]
    exact field_settings (by simp [settings])
  have routing : Value.field "ipRouting" fs = .bool d.routing := by
    rw [hfs]
    exact field_settings (by simp [settings])
  rw [hostname, address, domainName, routing, Device.new, filled, hname]
  rfl

/-- The settings of a legible device, read into the new device that is made for them, make the
device again, filled in and but for the order of its interfaces. -/
theorem Legible.run_read_settings {d : Device} {uid : String} (hp : d.Proper uid)
    (hd : d.Legible) :
    ∃ r, (Device.read (Index.ofList d.settings).entries).run
        (Device.new d.uid d.kind d.label .null d.status) =
          (.ok (), { d.filled with interfaces := r }) ∧
      interfaceDocument r = interfaceDocument d.interfaces := by
  have tag := readTag_settings hd
  have start := new_settings hd rfl
  have vlans : Value.field "vlanTable" (Index.ofList d.settings).entries = vlanDocument d.vlans :=
    field_settings (by simp [settings])
  have interfaces : Value.field "interfaceTable" (Index.ofList d.settings).entries =
      interfaceDocument d.interfaces := field_settings (by simp [settings])
  have lines : Value.field "lines" (Index.ofList d.settings).entries =
      .record (d.lines.toList.map fun e => (e.1.name, e.2.toDocument)) :=
    field_settings (by simp [settings])
  generalize (Index.ofList d.settings).entries = fs at tag start vlans interfaces lines
  obtain ⟨r, hrun, hsame⟩ := run_readInterfaces_written hp hd.interfaces
    (x := { d.filled with interfaces := Roster.empty, lines := {} }) rfl
  refine ⟨r, ?_, hsame⟩
  rw [Device.read]
  dsimp only
  rw [run_modify_bind, start, run_lift_bind tag, run_modify_bind, vlans,
    run_bind_of_ok (run_readVlanTable_written hd.vlans hp.firstVlan _), interfaces, lines]
  -- both the interfaces and the lines are records, so both are read
  let ls := (Index.ofList (d.lines.toList.map fun e => (e.1.name, e.2.toDocument))).entries
  change (readInterfaces (Index.ofList (d.interfaces.values.map interfaceEntry)).entries >>=
    fun _ => (modify fun x => { x with lines := x.lines.read ls } : Reading Device Unit)).run _ = _
  refine (run_bind_of_ok hrun).trans ?_
  rw [run_modify, Lines.read_written hd.lines]
  rfl

/-- The settings of a storable device, read into the new device that is made for them, make the
device again, but for the order of its interfaces. -/
theorem run_read_settings {d : Device} {uid : String} (hp : d.Proper uid) (hd : d.Storable) :
    ∃ r, (Device.read (Index.ofList d.settings).entries).run
        (Device.new d.uid d.kind d.label .null d.status) = (.ok (), { d with interfaces := r }) ∧
      interfaceDocument r = interfaceDocument d.interfaces := by
  have read := hd.legible.run_read_settings hp
  rwa [hd.filled_eq] at read

end Device

end NetLab
