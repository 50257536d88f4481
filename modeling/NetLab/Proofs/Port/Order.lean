import NetLab.Proofs.Document.Sorted
import NetLab.Proofs.Port.Name

set_option autoImplicit false

/-!
# The order of the ports

Links that have ids of their own have one order, whatever order they came in, and so a device has
one list of ports (`Listed`).  The number at the end of a name leads back into that list
(`Inverts`), and every other name to no port.
-/

namespace NetLab

variable {ν : Type}

/-- The id of a link as text. -/
def Link.label (l : Link ν) : String := l.id.display

namespace Port

/-- Every link has a text as its id, and no two have the same. -/
structure Labelled (links : List (Link ν)) : Prop where
  text : ∀ l ∈ links, l.id = .text l.label
  nodup : (links.map (·.id)).Nodup

/-- The ports of links in their order, numbered from 1. -/
def numbered (ls : List (Link ν)) : List (String × Link ν) :=
  ls.zipIdx.map fun p => (name p.2, p.1)

theorem getElem?_numbered (ls : List (Link ν)) (k : Nat) :
    (numbered ls)[k]? = ls[k]?.map fun l => (name k, l) := by
  rw [numbered, List.getElem?_map, List.getElem?_zipIdx, Option.map_map, Nat.zero_add]
  rfl

@[simp] theorem map_snd_numbered (ls : List (Link ν)) : (numbered ls).map Prod.snd = ls := by
  refine List.ext_getElem? fun k => ?_
  rw [List.getElem?_map, getElem?_numbered, Option.map_map]
  exact Option.map_id_apply

@[simp] theorem length_numbered (ls : List (Link ν)) : (numbered ls).length = ls.length := by
  rw [numbered, List.length_map, List.length_zipIdx]

/-! ## One order -/

namespace Labelled

variable {links links' : List (Link ν)}

theorem of_perm (h : Labelled links) (hp : links'.Perm links) : Labelled links' where
  text l hl := h.text l (hp.mem_iff.1 hl)
  nodup := (hp.map _).nodup_iff.2 h.nodup

theorem filter (h : Labelled links) (p : Link ν → Bool) : Labelled (links.filter p) where
  text l hl := h.text l (List.mem_filter.1 hl).1
  nodup := h.nodup.sublist (List.filter_sublist.map _)

theorem tail {l : Link ν} (h : Labelled (l :: links)) : Labelled links where
  text m hm := h.text m (List.mem_cons_of_mem _ hm)
  nodup := (List.nodup_cons.1 h.nodup).2

/-- No two links have the same id as text either. -/
theorem pairwise_ne (h : Labelled links) : links.Pairwise fun a b => a.label ≠ b.label := by
  refine (List.pairwise_map.1 h.nodup).imp_of_mem fun {a b} ha hb different same => ?_
  rw [h.text a ha, h.text b hb, same] at different
  exact different rfl

end Labelled

variable [BEq ν] {uid : ν} {links links' : List (Link ν)}

theorem map_eq (uid : ν) (links : List (Link ν)) :
    map uid links = (sortedLinks uid links).map numbered := by
  rw [map]
  cases sortedLinks uid links <;> rfl

/-- The links of a device in the order of its ports are those links, and their ids increase. -/
theorem sortedLinks_eq_ok_iff (h : Labelled links) {ls : List (Link ν)} :
    sortedLinks uid links = .ok ls ↔
      ls.Perm (links.filter (·.touches uid)) ∧ ls.Pairwise fun a b => a.label < b.label := by
  have own : Labelled (links.filter (·.touches uid)) := h.filter _
  obtain ⟨sorted, hsorted, perm, ordered⟩ :=
    Value.sortBy_texts fun l hl => ⟨_, own.text l hl⟩
  have increasing : sorted.Pairwise fun a b => a.label < b.label := by
    have different := (own.of_perm perm).pairwise_ne
    exact (ordered.and different).imp fun ⟨le, ne⟩ =>
      Std.lt_of_le_of_ne le ne
  rw [sortedLinks, hsorted]
  constructor
  · intro heq
    obtain rfl := Except.ok.inj heq
    exact ⟨perm, increasing⟩
  · rintro ⟨hperm, hincreasing⟩
    refine congrArg Except.ok (List.Perm.eq_of_pairwise ?_ increasing hincreasing
      (perm.trans hperm.symm))
    intro a b _ _ hab hba
    exact absurd hba (String.lt_asymm hab)

/-- The order in which links came does not matter to the ports. -/
theorem sortedLinks_perm (h : Labelled links) (hp : links'.Perm links) :
    sortedLinks uid links' = sortedLinks uid links := by
  obtain ⟨ls, hls⟩ : ∃ ls, sortedLinks uid links = .ok ls :=
    Value.succeeds_sortBy fun l hl => ⟨_, (h.filter _).text l hl⟩
  obtain ⟨perm, increasing⟩ := (sortedLinks_eq_ok_iff h).1 hls
  rw [hls, sortedLinks_eq_ok_iff (h.of_perm hp)]
  exact ⟨perm.trans (hp.filter _).symm, increasing⟩

theorem map_perm (h : Labelled links) (hp : links'.Perm links) :
    map uid links' = map uid links := by
  rw [map_eq, map_eq, sortedLinks_perm h hp]

/-! ## The list of ports -/

/-- These are the ports of a device: its links, each once, in the order of their ids, numbered from
1. -/
structure Listed (uid : ν) (links : List (Link ν)) (ports : List (String × Link ν)) : Prop where
  nodup : (ports.map Prod.snd).Nodup
  mem_iff : ∀ l, l ∈ ports.map Prod.snd ↔ l ∈ links ∧ l.touches uid = true
  increasing : (ports.map Prod.snd).Pairwise fun a b => a.label < b.label
  names : ∀ k port, ports[k]? = some port → port.1 = "GigabitEthernet0/" ++ toString (k + 1)

theorem toString_succ (k : Nat) : toString ((k : Int) + 1) = toString (k + 1) := by
  rw [← String.toList_inj, toList_toString_succ, Nat.toString_eq_repr, Nat.toList_repr]

theorem name_eq (k : Nat) : name k = "GigabitEthernet0/" ++ toString (k + 1) := by
  rw [name, nameOf_eq, toString_succ]

theorem listed_numbered (h : Labelled links) {ls : List (Link ν)}
    (hls : sortedLinks uid links = .ok ls) : Listed uid links (numbered ls) := by
  obtain ⟨perm, increasing⟩ := (sortedLinks_eq_ok_iff h).1 hls
  refine ⟨?_, fun l => ?_, ?_, ?_⟩
  · rw [map_snd_numbered]
    refine increasing.imp fun {a b} hab same => ?_
    rw [same] at hab
    exact String.lt_irrefl _ hab
  · rw [map_snd_numbered, perm.mem_iff, List.mem_filter]
  · rw [map_snd_numbered]
    exact increasing
  · intro k port hport
    rw [getElem?_numbered] at hport
    obtain ⟨l, -, rfl⟩ := Option.map_eq_some_iff.1 hport
    exact name_eq k

/-! ## From a name to a link -/

/-- A search for the link at a named port inverts a list of ports: the number that a name ends in
gives the port, if it is the number of one, and no other name gives any. -/
structure Inverts (find : String → Except Fault (Option (Link ν)))
    (ports : List (String × Link ν)) : Prop where
  of_name : ∀ k port, ports[k]? = some port → k + 1 < 10 ^ Numeral.maxDigits →
    find port.1 = .ok (some port.2)
  of_short : ∀ k port, ports[k]? = some port → k + 1 < 10 ^ Numeral.maxDigits →
    shorten port.1 = "Gi0/" ++ toString (k + 1) ∧ find (shorten port.1) = .ok (some port.2)
  of_number : ∀ ifname digits k port, EndsIn ifname digits →
    digits.length ≤ Numeral.maxDigits → Text.numberOf digits = k + 1 → ports[k]? = some port →
    find ifname = .ok (some port.2)
  of_no_port : ∀ ifname digits, EndsIn ifname digits → digits.length ≤ Numeral.maxDigits →
    Text.numberOf digits = 0 ∨ ports.length < Text.numberOf digits → find ifname = .ok none
  of_no_number : ∀ ifname, (∀ digits, ¬ EndsIn ifname digits) → find ifname = .ok none

theorem linkFor?_of_endsIn {ls : List (Link ν)} (hls : sortedLinks uid links = .ok ls)
    {ifname : String} {digits : List Char} (h : EndsIn ifname digits)
    (short : digits.length ≤ Numeral.maxDigits) :
    linkFor? uid (.text ifname) links =
      .ok (if Text.numberOf digits = 0 then none else ls[Text.numberOf digits - 1]?) := by
  rw [linkFor?, positionOf?, position?_of_endsIn h short, hls]
  cases Text.numberOf digits with
  | zero => rfl
  | succ k =>
    have position : ((k + 1 : Nat) : Int) - 1 = k := by omega
    simp only [position, if_neg (Nat.succ_ne_zero k), Nat.add_sub_cancel]
    rfl

theorem linkFor?_of_not_endsIn {ifname : String} (h : ∀ digits, ¬ EndsIn ifname digits) :
    linkFor? uid (.text ifname) links = .ok none := by
  rw [linkFor?, positionOf?, position?_of_not_endsIn h]
  rfl

/-- The search for the link of a port inverts the list of ports. -/
theorem inverts_numbered {ls : List (Link ν)} (hls : sortedLinks uid links = .ok ls) :
    Inverts (fun ifname => linkFor? uid (.text ifname) links) (numbered ls) := by
  have at_number : ∀ {ifname digits k port}, EndsIn ifname digits →
      digits.length ≤ Numeral.maxDigits → Text.numberOf digits = k + 1 →
      (numbered ls)[k]? = some port → linkFor? uid (.text ifname) links = .ok (some port.2) := by
    intro ifname digits k port hends short hnumber hport
    rw [getElem?_numbered] at hport
    obtain ⟨l, hl, rfl⟩ := Option.map_eq_some_iff.1 hport
    rw [linkFor?_of_endsIn hls hends short, hnumber, if_neg (Nat.succ_ne_zero k),
      Nat.add_sub_cancel, hl]
  have named : ∀ {k : Nat} {port}, (numbered ls)[k]? = some port → port.1 = name k := by
    intro k port hport
    rw [getElem?_numbered] at hport
    obtain ⟨l, -, rfl⟩ := Option.map_eq_some_iff.1 hport
    rfl
  constructor
  case of_name =>
    intro k port hport bound
    rw [named hport]
    exact at_number (endsIn_name k) (length_toDigits_le bound) (numberOf_toDigits _) hport
  case of_short =>
    intro k port hport bound
    rw [named hport, shorten_name]
    refine ⟨?_, at_number (endsIn_shortNameAt k) (length_toDigits_le bound)
      (numberOf_toDigits _) hport⟩
    rw [shortNameAt, shortNameOf, toString_succ]
  case of_number => exact fun _ _ _ _ => at_number
  case of_no_port =>
    intro ifname digits hends short outside
    rw [linkFor?_of_endsIn hls hends short]
    split
    · rfl
    · next hne =>
      have above := outside.resolve_left hne
      rw [length_numbered] at above
      rw [List.getElem?_eq_none (by omega)]
  case of_no_number => exact fun _ => linkFor?_of_not_endsIn

/-- The name of a port leads to the link there. -/
theorem linkFor?_of_map {ports : List (String × Link ν)} {port : String × Link ν} {k : Nat}
    (h : map uid links = .ok ports) (there : ports[k]? = some port)
    (short : k + 1 < 10 ^ Numeral.maxDigits) :
    linkFor? uid (.text (name k)) links = .ok (some port.2) := by
  rw [map_eq] at h
  obtain ⟨ls, sorted, rfl⟩ := map_eq_ok_iff.1 h
  have inverts := (inverts_numbered sorted).of_name k port there short
  rw [getElem?_numbered] at there
  obtain ⟨l, -, rfl⟩ := Option.map_eq_some_iff.1 there
  exact inverts

/-- A device has one list of ports, whatever order the links came in, and the name of a port, its
short form and every other name that ends in the number of a port lead back to the link there. -/
theorem map_canonical (h : Labelled links) (uid : ν) :
    ∃ ports, Listed uid links ports ∧
      ∀ links', links'.Perm links → map uid links' = .ok ports ∧
        Inverts (fun ifname => linkFor? uid (.text ifname) links') ports := by
  obtain ⟨ls, hls⟩ : ∃ ls, sortedLinks uid links = .ok ls :=
    Value.succeeds_sortBy fun l hl => ⟨_, (h.filter _).text l hl⟩
  refine ⟨numbered ls, listed_numbered h hls, fun links' hp => ?_⟩
  have hls' : sortedLinks uid links' = .ok ls := (sortedLinks_perm h hp).trans hls
  refine ⟨?_, inverts_numbered hls'⟩
  rw [map_eq, hls']
  rfl

/-- Of three links, one of which joins the device with itself, `L10` comes before `L2`. -/
theorem map_canonical_of_three :
    let links : List (Link String) :=
      [⟨.text "L2", "A", "B"⟩, ⟨.text "L10", "C", "A"⟩, ⟨.text "L1", "A", "A"⟩]
    Labelled links ∧ ∃ ports, Listed "A" links ports ∧
      ∀ links', links'.Perm links → map "A" links' = .ok ports ∧
        Inverts (fun ifname => linkFor? "A" (.text ifname) links') ports := by
  intro links
  have h : Labelled links := ⟨by decide +kernel, by decide +kernel⟩
  exact ⟨h, map_canonical h "A"⟩

end Port

end NetLab
