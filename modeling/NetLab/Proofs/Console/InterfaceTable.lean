import NetLab.Proofs.Console.View
import NetLab.Proofs.Port.Order
import NetLab.Proofs.Text.Split

set_option autoImplicit false

/-!
# The interface table

The interface table of a device has one row for each port and for each interface that is configured,
and none twice, however the two overlap: ports come first in their order, and the other interfaces
follow in the order of their names (`Show.Tabulates`).  The table can be shown if link ids and
interface names are texts and every address fits in a column (`Show.exists_table`), and its lines
are then read back from what is printed (`Show.lines_output`).
-/

namespace NetLab

/-! ## Cells -/

namespace Value

/-- The text that a column shows of a value; nothing, lists and records have none. -/
def cell? : Value → Option String
  | text s => some s
  | bool b => some (if b then "1" else "0")
  | int n => some (toString n)
  | float d => some d.display
  | _ => none

/-- What is given can stand in a column. -/
def Fits (v : Value) : Prop := v.given = true → ∃ s, v.cell? = some s

theorem IsTextOrNull.fits {v : Value} (h : v.IsTextOrNull) : v.Fits := by
  cases h with
  | null => exact fun given => nomatch given
  | text s => exact fun _ => ⟨s, rfl⟩

theorem column_of_cell? {v : Value} {s : String} (h : v.cell? = some s) (width : Nat) :
    v.column width = .ok (Text.padRight width s) := by
  cases v with
  | null | list _ | object _ => cases h
  | _ =>
    obtain rfl := Option.some.inj h
    rfl

end Value

/-- The interface can stand in a table: its name is a text, and its address fits in a column. -/
structure Interface.Tabular (i : Interface) : Prop where
  key : ∃ name, i.key = .text name
  ip : i.ip.Fits

namespace Show

variable {d : Device} {links : List (Link String)}

/-! ## Rows -/

/-- What a row of the interface table says: a name, the address if there is one, and whether the
interface is shut. -/
structure Row where
  name : String
  address : Option String
  shut : Bool
  deriving DecidableEq, Repr

namespace Row

/-- The row as it is printed. -/
def text (r : Row) : String :=
  Text.padRight 22 r.name ++ " " ++ Text.padRight 15 (r.address.getD "unassigned") ++ " YES " ++
    Text.padRight 6 (if r.address.isSome then "manual" else "unset") ++ " " ++
    Text.padRight 20 (if r.shut then "admin down" else "up") ++ " " ++
    (if r.shut then "down" else "up")

/-- The row shows an interface: it has an address if the interface has one, which is this one, and
it is shut if the interface is. -/
structure Shows (i : Interface) (r : Row) : Prop where
  given : r.address.isSome = i.ip.given
  address : ∀ a, r.address = some a → i.ip.cell? = some a
  shut : r.shut = i.shutdown.given

/-- The row tells what the device has configured under its name: the interface of that name, or
nothing. -/
structure Tells (d : Device) (r : Row) : Prop where
  configured : ∀ i, d.interfaces.get? (.text r.name) = some i → r.Shows i
  unconfigured : d.interfaces.get? (.text r.name) = none → r.address = none ∧ r.shut = false

/-- A row without line breaks in its name and its address is one line. -/
theorem newline_notMem_text {r : Row} (name : '\n' ∉ r.name.toList)
    (address : ∀ a, r.address = some a → '\n' ∉ a.toList) : '\n' ∉ r.text.toList := by
  have filled : ∀ (width : Nat) {s : String}, '\n' ∉ s.toList →
      '\n' ∉ (Text.padRight width s).toList := fun width _ => Text.notMem_padRight (by decide) width
  have shown : '\n' ∉ (r.address.getD "unassigned").toList := by
    cases h : r.address with
    | none => decide
    | some a => exact address a h
  have method : '\n' ∉ (if r.address.isSome then "manual" else "unset").toList := by
    split <;> decide
  have status : '\n' ∉ (if r.shut then "admin down" else "up").toList := by
    split <;> decide
  have protocol : '\n' ∉ (if r.shut then "down" else "up").toList := by
    split <;> decide
  simp only [text, String.toList_append, List.mem_append, not_or]
  exact ⟨⟨⟨⟨⟨⟨⟨⟨filled 22 name, by decide⟩, filled 15 shown⟩, by decide⟩, filled 6 method⟩,
    by decide⟩, filled 20 status⟩, by decide⟩, protocol⟩

end Row

/-- A row is printed from what it says. -/
theorem interfaceRow_eq {r : Row} {ip : Value}
    (shown : ip.cell? = some (r.address.getD "unassigned")) :
    interfaceRow (.text r.name) ip r.address.isSome r.shut = .ok r.text := by
  rw [interfaceRow, Value.column_of_cell? shown]
  rfl

theorem rowOf_eq (d : Device) (name : String) :
    rowOf d (.text name) = match d.interfaces.get? (.text name) with
      | some i => interfaceRow (.text name)
          (if i.ip.given then i.ip else .text "unassigned") i.ip.given i.shutdown.given
      | none => interfaceRow (.text name) (.text "unassigned") false false := by
  rw [rowOf, Device.interface?, Value.key_text]
  rfl

/-- An interface whose address fits in a column is shown by a row. -/
theorem exists_row_of_interface {i : Interface} (fits : i.ip.Fits) (name : String) :
    ∃ r : Row, r.name = name ∧ r.Shows i ∧
      interfaceRow (.text name) (if i.ip.given then i.ip else .text "unassigned") i.ip.given
        i.shutdown.given = .ok r.text := by
  cases given : i.ip.given with
  | false =>
    let r : Row := ⟨name, none, i.shutdown.given⟩
    exact ⟨r, rfl, ⟨given.symm, fun a ha => (nomatch ha), rfl⟩, interfaceRow_eq (r := r) rfl⟩
  | true =>
    obtain ⟨a, ha⟩ := fits given
    let r : Row := ⟨name, some a, i.shutdown.given⟩
    exact ⟨r, rfl, ⟨given.symm, fun b hb => Option.some.inj hb ▸ ha, rfl⟩,
      interfaceRow_eq (r := r) ha⟩

/-- The row of a name tells what is configured under it. -/
theorem exists_row (name : String)
    (fits : ∀ i, d.interfaces.get? (.text name) = some i → i.ip.Fits) :
    ∃ r : Row, r.name = name ∧ r.Tells d ∧ rowOf d (.text name) = .ok r.text := by
  rw [rowOf_eq]
  cases found : d.interfaces.get? (.text name) with
  | none =>
    let r : Row := ⟨name, none, false⟩
    refine ⟨r, rfl, ⟨fun i hi => ?_, fun _ => ⟨rfl, rfl⟩⟩, interfaceRow_eq (r := r) rfl⟩
    cases found.symm.trans hi
  | some i =>
    obtain ⟨r, rfl, shows, row⟩ := exists_row_of_interface (fits i found) name
    refine ⟨r, rfl, ⟨fun j hj => ?_, fun none => ?_⟩, row⟩
    · obtain rfl := Option.some.inj (found.symm.trans hj)
      exact shows
    · cases found.symm.trans none

/-- The rows of names, one for each. -/
theorem exists_rows_of_names (names : List String)
    (fits : ∀ i ∈ d.interfaces.values, i.ip.Fits) :
    ∃ rows : List Row, rows.map Row.name = names ∧ (∀ r ∈ rows, r.Tells d) ∧
      (names.map Value.text).mapM (rowOf d) = .ok (rows.map Row.text) := by
  induction names with
  | nil => exact ⟨[], rfl, List.forall_mem_nil _, rfl⟩
  | cons name names ih =>
    obtain ⟨rows, named, tell, shown⟩ := ih
    obtain ⟨r, rfl, tells, row⟩ := exists_row name fun i hi =>
      fits i (Roster.mem_values_iff.2 ⟨_, hi⟩)
    refine ⟨r :: rows, ?_, List.forall_mem_cons.2 ⟨tells, tell⟩, ?_⟩
    · rw [List.map_cons, named]
    · rw [List.map_cons, List.mapM_cons, row, shown]
      rfl

/-! ## Names -/

/-- Texts as keys: interfaces stand under the names that they have. -/
theorem map_key_values {uid : String} (proper : d.Proper uid)
    (texts : ∀ i ∈ d.interfaces.values, ∃ name, i.key = .text name) :
    d.interfaces.values.map (·.key) = d.interfaces.keys := by
  rw [Roster.values, Roster.keys, List.map_map]
  refine List.map_congr_left fun e he => ?_
  obtain ⟨name, hname⟩ := texts e.2 (List.mem_map_of_mem he)
  have plain := proper.keyed e.1 e.2 (Roster.get?_eq_some_iff.2 he)
  rw [hname, Value.plain] at plain
  rw [Function.comp_apply, hname, plain]

/-- Ports have names of their own. -/
theorem nodup_ports {uid : String} {ports : List (String × Link String)}
    (listed : Port.map uid links = .ok ports) : (ports.map Prod.fst).Nodup := by
  rw [Port.map_eq] at listed
  obtain ⟨ls, -, rfl⟩ := map_eq_ok_iff.1 listed
  rw [Port.numbered, List.map_map]
  refine List.pairwise_map.2 (List.pairwise_iff_getElem.2 fun i j hi hj lt same => ?_)
  rw [List.getElem_zipIdx, List.getElem_zipIdx] at same
  have := Port.name_injective same
  omega

/-- These names follow the ports: those of the other interfaces, in their order. -/
structure Follow (d : Device) (ports others : List String) : Prop where
  increasing : others.Pairwise (· < ·)
  mem_iff : ∀ name, name ∈ others ↔
    d.interfaces.contains (.text name) = true ∧ name ∉ ports

theorem Follow.nodup {ports others : List String} (h : Follow d ports others)
    (alone : ports.Nodup) : (ports ++ others).Nodup := by
  refine List.nodup_append'.2 ⟨alone, ?_, fun name port other => ((h.mem_iff name).1 other).2 port⟩
  refine h.increasing.imp fun {a b} lt same => ?_
  rw [same] at lt
  exact String.lt_irrefl _ lt

/-- The names of the table: the ports, and what follows them. -/
theorem exists_others {uid : String} {ports : List (String × Link String)} (proper : d.Proper uid)
    (texts : ∀ i ∈ d.interfaces.values, ∃ name, i.key = .text name)
    (listed : Port.map d.uid links = .ok ports) :
    ∃ others, Follow d (ports.map Prod.fst) others ∧
      interfaceNames d links = .ok ((ports.map Prod.fst ++ others).map Value.text) := by
  let others := d.interfaces.keys.filter fun name =>
    !(ports.map fun p => Value.text p.1).contains name
  have keys := map_key_values proper texts
  have otherTexts : ∀ v ∈ others, ∃ name, id v = .text name := by
    intro v hv
    have key : v ∈ d.interfaces.values.map (·.key) := keys ▸ (List.mem_filter.1 hv).1
    obtain ⟨i, hi, rfl⟩ := List.mem_map.1 key
    exact texts i hi
  obtain ⟨sorted, hsorted, perm, ordered⟩ := Value.sortBy_texts otherTexts
  have sortedTexts : ∀ v ∈ sorted, ∃ name, v = .text name :=
    fun v hv => otherTexts v (perm.mem_iff.1 hv)
  -- what is sorted are texts, so nothing is lost where it is displayed
  have shown : (sorted.map Value.display).map Value.text = sorted := by
    rw [List.map_map]
    refine (List.map_congr_left fun v hv => ?_).trans (List.map_id sorted)
    obtain ⟨name, rfl⟩ := sortedTexts v hv
    rfl
  have mem_iff : ∀ name, name ∈ sorted.map Value.display ↔ Value.text name ∈ sorted := by
    intro name
    rw [← List.mem_map_of_injective (fun a b => Value.text.inj), shown]
  have nodup : sorted.Nodup :=
    perm.nodup_iff.2 (List.Nodup.filter _ d.interfaces.nodup)
  refine ⟨sorted.map Value.display, ⟨?_, fun name => ?_⟩, ?_⟩
  · refine List.pairwise_map.2 ((ordered.and nodup).imp_of_mem fun {a b} ha hb h => ?_)
    obtain ⟨s, rfl⟩ := sortedTexts a ha
    obtain ⟨t, rfl⟩ := sortedTexts b hb
    exact Std.lt_of_le_of_ne h.1 fun same => h.2 (congrArg Value.text same)
  · rw [mem_iff, perm.mem_iff, List.mem_filter, Roster.mem_keys_iff, ← Roster.contains_iff]
    simp
  · refine bind_eq_ok_iff.2 ⟨ports, listed, bind_eq_ok_iff.2 ⟨sorted, ?_, ?_⟩⟩
    · rw [keys]
      exact hsorted
    · rw [List.map_append, shown, List.map_map]
      rfl

/-! ## The table -/

/-- The line over the interface table. -/
def interfaceHeading : String :=
  "Interface              IP-Address      OK? Method Status                Protocol"

/-- The lines of the table of rows: one for each, or the placeholder if there is none. -/
def tableLines : List Row → List String
  | [] => [interfaceHeading, placeholderRow]
  | rows => interfaceHeading :: rows.map Row.text

/-- The rows are those of a device with ports of these names. -/
structure Tabulates (d : Device) (ports : List String) (rows : List Row) : Prop where
  /-- The ports come first, in their order, and then the other interfaces by name. -/
  names : ∃ others, rows.map Row.name = ports ++ others ∧ Follow d ports others
  nodup : (rows.map Row.name).Nodup
  complete : ∀ i ∈ d.interfaces.values, ∃ r ∈ rows, i.key = .text r.name
  tells : ∀ r ∈ rows, r.Tells d

/-- A device has no port if no link ends at it. -/
theorem ports_eq_nil_iff {uid : String} {ports : List (String × Link String)}
    (listed : Port.map uid links = .ok ports) :
    ports = [] ↔ ∀ l ∈ links, l.touches uid = false := by
  rw [Port.map_eq] at listed
  obtain ⟨ls, sorted, rfl⟩ := map_eq_ok_iff.1 listed
  have perm : ls.Perm (links.filter (·.touches uid)) := Value.perm_of_sortBy sorted
  rw [← List.length_eq_zero_iff, Port.length_numbered, perm.length_eq, List.length_eq_zero_iff,
    List.filter_eq_nil_iff]
  simp

/-- The table has no row only if the device has neither a link nor an interface. -/
theorem Tabulates.eq_nil_iff {ports : List (String × Link String)} {rows : List Row}
    (h : Tabulates d (ports.map Prod.fst) rows) (listed : Port.map d.uid links = .ok ports) :
    rows = [] ↔ (∀ l ∈ links, l.touches d.uid = false) ∧ d.interfaces.values = [] := by
  obtain ⟨others, named, follow⟩ := h.names
  rw [← ports_eq_nil_iff listed]
  constructor
  · rintro rfl
    refine ⟨?_, List.eq_nil_iff_forall_not_mem.2 fun i hi => ?_⟩
    · exact List.map_eq_nil_iff.1 (List.append_eq_nil_iff.1 named.symm).1
    · obtain ⟨r, hr, -⟩ := h.complete i hi
      exact List.not_mem_nil hr
  · rintro ⟨rfl, none⟩
    have alone : others = [] := by
      refine List.eq_nil_iff_forall_not_mem.2 fun name hname => ?_
      obtain ⟨i, hi⟩ := Roster.contains_iff.1 ((follow.mem_iff name).1 hname).1
      have mem := Roster.mem_values_iff.2 ⟨_, hi⟩
      rw [none] at mem
      exact List.not_mem_nil mem
    rw [alone] at named
    exact List.map_eq_nil_iff.1 named

/-- These rows are the interface table of a device. -/
structure Table (d : Device) (links : List (Link String)) (rows : List Row) : Prop where
  tabulates : ∃ ports, Port.map d.uid links = .ok ports ∧ Tabulates d (ports.map Prod.fst) rows
  /-- Only a device with neither a link nor an interface has the placeholder instead of rows. -/
  eq_nil_iff : rows = [] ↔ (∀ l ∈ links, l.touches d.uid = false) ∧ d.interfaces.values = []
  shown : interfaceBrief d links = .ok (tableLines rows)

/-- Rows with the names of the table are its rows. -/
theorem tabulates_of_names {uid : String} {ports others : List String} {rows : List Row}
    (proper : d.Proper uid) (texts : ∀ i ∈ d.interfaces.values, ∃ name, i.key = .text name)
    (alone : ports.Nodup) (follow : Follow d ports others)
    (named : rows.map Row.name = ports ++ others) (tells : ∀ r ∈ rows, r.Tells d) :
    Tabulates d ports rows := by
  refine ⟨⟨others, named, follow⟩, named ▸ follow.nodup alone, fun i hi => ?_, tells⟩
  obtain ⟨name, key⟩ := texts i hi
  have kept : d.interfaces.contains (.text name) = true := by
    rw [Roster.contains_iff, ← Roster.mem_keys_iff, ← map_key_values proper texts, ← key]
    exact List.mem_map_of_mem hi
  have there : name ∈ rows.map Row.name := by
    rw [named, List.mem_append, follow.mem_iff]
    by_cases port : name ∈ ports
    · exact .inl port
    · exact .inr ⟨kept, port⟩
  obtain ⟨r, hr, rfl⟩ := List.mem_map.1 there
  exact ⟨r, hr, key⟩

/-- The table is printed from the rows of its names. -/
theorem interfaceBrief_eq {rows : List Row}
    (names : interfaceNames d links = .ok ((rows.map Row.name).map Value.text))
    (shown : ((rows.map Row.name).map Value.text).mapM (rowOf d) = .ok (rows.map Row.text)) :
    interfaceBrief d links = .ok (tableLines rows) := by
  rw [interfaceBrief, names]
  cases rows with
  | nil => rfl
  | cons r rows =>
    change ((((r :: rows).map Row.name).map Value.text).mapM (rowOf d) >>= fun lines =>
      pure (interfaceHeading :: lines)) = .ok (tableLines (r :: rows))
    rw [shown]
    rfl

/-- A device whose interfaces can stand in a table has one. -/
theorem exists_table {uid : String} (proper : d.Proper uid)
    (tabular : ∀ i ∈ d.interfaces.values, i.Tabular)
    (ids : ∀ l ∈ links, ∃ id, l.id = .text id) : ∃ rows, Table d links rows := by
  have texts := fun i hi => (tabular i hi).key
  obtain ⟨ports, listed⟩ : Succeeds (Port.map d.uid links) :=
    succeeds_bind (Port.succeeds_sortedLinks d.uid ids) fun _ _ => succeeds_pure _
  obtain ⟨others, follow, names⟩ := exists_others proper texts listed
  obtain ⟨rows, named, tells, shown⟩ :=
    exists_rows_of_names (ports.map Prod.fst ++ others) fun i hi => (tabular i hi).ip
  rw [← named] at names shown
  have tabulates := tabulates_of_names proper texts (nodup_ports listed) follow named tells
  exact ⟨rows, ⟨ports, listed, tabulates⟩, tabulates.eq_nil_iff listed,
    interfaceBrief_eq names shown⟩

theorem newline_notMem_portName (k : Nat) : '\n' ∉ (Port.name k).toList := by
  rw [Port.name_eq, String.toList_append, List.mem_append, not_or]
  exact ⟨by decide, Port.not_mem_number (by decide) (k + 1)⟩

/-- No row has a line break in its name if no interface has one: ports have none. -/
theorem Table.newline_notMem_name {rows : List Row} (h : Table d links rows)
    (oneLine : ∀ name, d.interfaces.contains (.text name) = true → '\n' ∉ name.toList) :
    ∀ r ∈ rows, '\n' ∉ r.name.toList := by
  intro r hr
  obtain ⟨ports, listed, tabulates⟩ := h.tabulates
  obtain ⟨others, named, follow⟩ := tabulates.names
  have listedName : r.name ∈ ports.map Prod.fst ++ others := named ▸ List.mem_map_of_mem hr
  rcases List.mem_append.1 listedName with port | other
  · rw [Port.map_eq] at listed
    obtain ⟨ls, -, rfl⟩ := map_eq_ok_iff.1 listed
    rw [Port.numbered, List.map_map] at port
    obtain ⟨p, -, name⟩ := List.mem_map.1 port
    rw [← name]
    exact newline_notMem_portName p.2
  · exact oneLine _ ((follow.mem_iff _).1 other).1

/-- The lines of a table are read back from what is printed, if no row has a line break in it. -/
theorem lines_output {rows : List Row} (names : ∀ r ∈ rows, '\n' ∉ r.name.toList)
    (addresses : ∀ r ∈ rows, ∀ a, r.address = some a → '\n' ∉ a.toList) :
    Text.lines (output (tableLines rows)) = tableLines rows := by
  refine Text.split_intercalate ?_ fun line hline => ?_
  · cases rows <;> exact List.cons_ne_nil _ _
  · cases rows with
    | nil =>
      have whole : ∀ line ∈ tableLines [], '\n' ∉ line.toList := by decide +kernel
      exact whole line hline
    | cons r rows =>
      rcases List.mem_cons.1 hline with rfl | hline
      · decide +kernel
      · obtain ⟨x, hx, rfl⟩ := List.mem_map.1 hline
        exact Row.newline_notMem_text (names x hx) (addresses x hx)

end Show

end NetLab
