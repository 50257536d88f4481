import NetLab.Proofs.Network.Fresh
import NetLab.Proofs.Port.Order

set_option autoImplicit false

/-!
# A new link among the ports

A link that comes in stands where its id belongs, and only the ports behind it are renumbered
(`Moved`).  A device at neither end keeps its ports, and when the link goes again every device has
the ports that it had.
-/

namespace NetLab

namespace Port

variable {ν : Type}

/-- The ports of a device at an end of a new link, which stands behind as many others as have a
smaller id: these stay, and those behind it are one number further. -/
structure Moved (l : Link ν) (below : Nat) (before after : List (String × Link ν)) : Prop where
  length : after.length = before.length + 1
  own : after[below]? = some (name below, l)
  kept : ∀ (k : Nat) p, before[k]? = some p → p.2.label < l.label → after[k]? = some p
  moved : ∀ (k : Nat) p, before[k]? = some p → l.label < p.2.label →
    after[k + 1]? = some (name (k + 1 : Nat), p.2)

/-- What stands around the new link decides which ports move. -/
theorem moved_numbered {l : Link ν} {low high : List (Link ν)}
    (hlow : ∀ m ∈ low, m.label < l.label) (hhigh : ∀ m ∈ high, l.label < m.label) :
    Moved l low.length (numbered (low ++ high)) (numbered (low ++ l :: high)) := by
  constructor
  case length => simp [Nat.add_assoc]
  case own =>
    rw [getElem?_numbered, List.getElem?_append_right (Nat.le_refl _), Nat.sub_self]
    rfl
  case kept =>
    intro k p hp below
    rw [getElem?_numbered] at hp ⊢
    obtain ⟨m, hm, rfl⟩ := Option.map_eq_some_iff.1 hp
    by_cases hk : k < low.length
    · rw [List.getElem?_append_left hk] at hm ⊢
      rw [hm]
      rfl
    · rw [List.getElem?_append_right (Nat.le_of_not_lt hk)] at hm
      exact absurd below (String.lt_asymm (hhigh m (List.mem_of_getElem? hm)))
  case moved =>
    intro k p hp above
    rw [getElem?_numbered] at hp ⊢
    obtain ⟨m, hm, rfl⟩ := Option.map_eq_some_iff.1 hp
    by_cases hk : k < low.length
    · rw [List.getElem?_append_left hk] at hm
      exact absurd above (String.lt_asymm (hlow m (List.mem_of_getElem? hm)))
    · have hle : low.length ≤ k := Nat.le_of_not_lt hk
      rw [List.getElem?_append_right hle] at hm
      rw [List.getElem?_append_right (Nat.le_succ_of_le hle), Nat.succ_sub hle,
        List.getElem?_cons_succ, hm]
      rfl

variable {links inserted : List (Link ν)} {l : Link ν}

/-- The list without the new link is the list that there was, in some order. -/
theorem perm_of_removed (h : Labelled (l :: links)) (hp : inserted.Perm (l :: links)) :
    (inserted.filter fun m => decide (m.id ≠ l.id)).Perm links := by
  have others : ∀ m ∈ links, decide (m.id ≠ l.id) = true := by
    intro m hm
    refine decide_eq_true fun same => ?_
    exact (List.nodup_cons.1 h.nodup).1 (List.mem_map.2 ⟨m, hm, same⟩)
  have kept := hp.filter fun m => decide (m.id ≠ l.id)
  rwa [List.filter_cons_of_neg (by simp), List.filter_eq_self.2 others] at kept

variable [BEq ν] {uid : ν}

/-- What a new link does to the ports of a device. -/
structure Shift (l : Link ν) (links inserted : List (Link ν)) (uid : ν) : Prop where
  touched : l.touches uid = true → ∃ before after, map uid links = .ok before ∧
    map uid inserted = .ok after ∧
    Moved l (links.countP fun m => m.touches uid && decide (m.label < l.label)) before after
  untouched : l.touches uid = false →
    ∃ ports, map uid links = .ok ports ∧ map uid inserted = .ok ports

/-- The links of a device fall into those with smaller ids than a new link and those with greater
ids, and the new link stands between them. -/
theorem sortedLinks_around (h : Labelled (l :: links)) (uid : ν) :
    ∃ low high, (∀ m ∈ low, m.label < l.label) ∧ (∀ m ∈ high, l.label < m.label) ∧
      low.length = links.countP (fun m => m.touches uid && decide (m.label < l.label)) ∧
      sortedLinks uid links = .ok (low ++ high) ∧
      (l.touches uid = true → sortedLinks uid (l :: links) = .ok (low ++ l :: high)) := by
  have rest : Labelled links := h.tail
  obtain ⟨ls, hls⟩ : ∃ ls, sortedLinks uid links = .ok ls :=
    Value.succeeds_sortBy fun m hm => ⟨_, (rest.filter _).text m hm⟩
  obtain ⟨perm, increasing⟩ := (sortedLinks_eq_ok_iff rest).1 hls
  have other : ∀ m ∈ ls, m.label ≠ l.label := fun m hm =>
    ((List.pairwise_cons.1 h.pairwise_ne).1 m (List.mem_filter.1 (perm.mem_iff.1 hm)).1).symm
  let isLow (m : Link ν) : Bool := decide (m.label < l.label)
  have hlow : ∀ m ∈ ls.filter isLow, m.label < l.label := fun m hm =>
    of_decide_eq_true (List.mem_filter.1 hm).2
  have hhigh : ∀ m ∈ ls.filter (fun m => !isLow m), l.label < m.label := by
    intro m hm
    obtain ⟨hmem, hnot⟩ := List.mem_filter.1 hm
    have hle : l.label ≤ m.label := String.not_lt.1 (by simpa [isLow] using hnot)
    exact Std.lt_of_le_of_ne hle (other m hmem).symm
  have split : (ls.filter isLow ++ ls.filter fun m => !isLow m).Perm
      (links.filter (·.touches uid)) :=
    (List.filter_append_perm isLow ls).trans perm
  have apart : ∀ a ∈ ls.filter isLow, ∀ b ∈ ls.filter (fun m => !isLow m), a.label < b.label :=
    fun a ha b hb => String.lt_trans (hlow a ha) (hhigh b hb)
  refine ⟨ls.filter isLow, ls.filter fun m => !isLow m, hlow, hhigh, ?_, ?_, fun touches => ?_⟩
  · rw [(perm.filter isLow).length_eq, List.filter_filter, List.countP_eq_length_filter]
    simp only [isLow, Bool.and_comm]
  · rw [sortedLinks_eq_ok_iff rest, List.pairwise_append]
    exact ⟨split, increasing.filter _, increasing.filter _, apart⟩
  · rw [sortedLinks_eq_ok_iff h,
      List.filter_cons_of_pos (p := fun m : Link ν => m.touches uid) touches,
      List.pairwise_append, List.pairwise_cons]
    refine ⟨List.perm_middle.trans (split.cons l), increasing.filter _,
      ⟨hhigh, increasing.filter _⟩, fun a ha b hb => ?_⟩
    rcases List.mem_cons.1 hb with rfl | hb
    · exact hlow a ha
    · exact apart a ha b hb

/-- A new link stands behind the ports with smaller ids, moves those with greater ids on by one,
and leaves the ports of a device that it does not end at. -/
theorem shift_of_perm (h : Labelled (l :: links)) (hp : inserted.Perm (l :: links)) (uid : ν) :
    Shift l links inserted uid := by
  obtain ⟨low, high, hlow, hhigh, hlength, hbefore, hafter⟩ := sortedLinks_around h uid
  have same : map uid inserted = map uid (l :: links) := map_perm h hp
  have before : map uid links = .ok (numbered (low ++ high)) := by rw [map_eq, hbefore]; rfl
  constructor
  case touched =>
    intro touches
    refine ⟨_, numbered (low ++ l :: high), before, ?_, ?_⟩
    · rw [same, map_eq, hafter touches]
      rfl
    · rw [← hlength]
      exact moved_numbered hlow hhigh
  case untouched =>
    intro apart
    refine ⟨_, before, ?_⟩
    rw [same, ← before, map, map, sortedLinks, sortedLinks,
      List.filter_cons_of_neg (by simp [apart])]

end Port

/-! ## Links of a network -/

namespace Network

open Port

variable {n : Network} {l : Link String} {a b : String}

/-- A link with a new id is added behind the others, and when it is removed again the links are
those that there were. -/
theorem Keyed.addLink_removeLink (h : n.Keyed) (new : Labelled (l :: n.links.values))
    (source : n.devices.contains (Text.trim a) = true)
    (target : n.devices.contains (Text.trim b) = true)
    (hsource : l.source = Text.trim a) (htarget : l.target = Text.trim b) :
    ∃ m r, n.addLink a b l.id = .ok (l.id, m) ∧ m.links.values = n.links.values ++ [l] ∧
      m.removeLink l.id = .ok r ∧ r.links = n.links := by
  obtain ⟨id, ends⟩ : ∃ id, l = ⟨.text id, Text.trim a, Text.trim b⟩ := by
    refine ⟨l.label, ?_⟩
    rw [← new.text l (List.mem_cons_self ..), ← hsource, ← htarget]
  subst ends
  have none : n.links.get? (.text id) = none := by
    rw [Option.eq_none_iff_forall_ne_some]
    intro m found
    have hm : m ∈ n.links.values := Roster.mem_values_iff.2 ⟨_, found⟩
    have key : m.id.plain = .text id := h _ m found
    rw [new.text m (List.mem_cons_of_mem _ hm)] at key
    have same : m.id = .text id := by rw [new.text m (List.mem_cons_of_mem _ hm), ← key]; rfl
    exact (List.nodup_cons.1 new.nodup).1 (List.mem_map.2 ⟨m, hm, same⟩)
  have free : n.links.contains (.text id) = false := by rw [Roster.contains, none]; rfl
  let added := n.putLink ⟨.text id, Text.trim a, Text.trim b⟩
  have values : added.links.values = n.links.values ++ [⟨.text id, Text.trim a, Text.trim b⟩] :=
    Roster.values_put_of_none none
  have back : added.links.erase (.text id) = n.links := Roster.erase_put_of_none none
  refine ⟨added, { added with links := n.links }, addLink_text source target free, values, ?_, rfl⟩
  have some : added.links.size ≠ 0 := by
    change (n.links.put (.text id) _).entries.length ≠ 0
    rw [Roster.entries_put_of_none none, List.length_append]
    exact Nat.succ_ne_zero _
  rw [removeLink, if_neg some, ← back]
  rfl

end Network

namespace Port

/-- A new link stands behind the ports of a device whose ids are smaller, moves those whose ids are
greater on by one, and is nothing to a device that it does not end at.  When it goes again, every
device has the ports that it had.  So it is in a list of links, wherever the new one stands in it,
and so it is in a network. -/
theorem shift_and_restore {links inserted : List (Link String)} {l : Link String}
    (h : Labelled (l :: links)) (hp : inserted.Perm (l :: links)) :
    (∀ uid, Shift l links inserted uid ∧
      map uid (inserted.filter fun m => decide (m.id ≠ l.id)) = map uid links) ∧
    ∀ (n : Network) (a b : String), n.Keyed → n.links.values = links →
      n.devices.contains (Text.trim a) = true → n.devices.contains (Text.trim b) = true →
      l.source = Text.trim a → l.target = Text.trim b →
      ∃ m r, n.addLink a b l.id = .ok (l.id, m) ∧ m.removeLink l.id = .ok r ∧
        ∀ uid, Shift l links m.links.values uid ∧ map uid r.links.values = map uid links := by
  refine ⟨fun uid => ⟨shift_of_perm h hp uid, map_perm h.tail (perm_of_removed h hp)⟩, ?_⟩
  rintro n a b keyed rfl source target hsource htarget
  obtain ⟨m, r, added, values, removed, links⟩ :=
    keyed.addLink_removeLink h source target hsource htarget
  refine ⟨m, r, added, removed, fun uid => ⟨shift_of_perm h ?_ uid, by rw [links]⟩⟩
  rw [values]
  exact List.perm_append_singleton l n.links.values

/-- A link `L2` joins a device with itself that has the links `L10` and `L3`. -/
theorem shift_and_restore_between :
    let links : List (Link String) := [⟨.text "L3", "A", "B"⟩, ⟨.text "L10", "B", "A"⟩]
    let l : Link String := ⟨.text "L2", "A", "A"⟩
    let n := Network.build [.addDevice { uid := "A", kind := .text "ROUTER" },
      .addDevice { uid := "B", kind := .text "PC" },
      .addLink "A" "B" (.text "L3"), .addLink "B" "A" (.text "L10")]
    (∀ uid, Shift l links (l :: links) uid ∧
      map uid ((l :: links).filter fun m => decide (m.id ≠ l.id)) = map uid links) ∧
    ∃ m r, n.addLink "A" "A" l.id = .ok (l.id, m) ∧ m.removeLink l.id = .ok r ∧
      ∀ uid, Shift l links m.links.values uid ∧ map uid r.links.values = map uid links := by
  intro links l n
  have h : Labelled (l :: links) := ⟨by decide +kernel, by decide +kernel⟩
  obtain ⟨lists, networks⟩ := shift_and_restore h (List.Perm.refl _)
  exact ⟨lists, networks n "A" "A" (Network.keyed_build _) (by decide +kernel) (by decide +kernel)
    (by decide +kernel) (by decide +kernel) (by decide +kernel)⟩

end Port

end NetLab
