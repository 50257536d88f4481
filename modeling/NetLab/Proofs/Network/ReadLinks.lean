import NetLab.Proofs.Network.Numbering
import NetLab.Proofs.Network.Written

set_option autoImplicit false

/-!
# Reading the links of a document

Links between devices are all read if no id is given twice.  A link that is given an id keeps it,
wherever it stands in the document, because every id that is given is kept back while the others are
numbered; and the numbers go up (`LinksRead`).  The induction over the records keeps free what the
links still to come are given.
-/

namespace NetLab

open Reading

/-! ## Records of links -/

namespace Fields

variable {fs : Fields}

/-- The id that the record of a link gives, if it gives one: a text as it stands. -/
def linkId? (fs : Fields) : Option String :=
  let id := Value.field "id" fs
  if id.given then some id.display else none

/-- The ends that the record of a link names, without the blanks around them. -/
structure Joins (fs : Fields) (a b : String) : Prop where
  source : ∃ v, fs.required "sourceId" = .ok v ∧ Text.trim v.display = a
  target : ∃ v, fs.required "targetId" = .ok v ∧ Text.trim v.display = b

/-- The link is what the record says: it joins the ends that are named, and has the id that is
given, if one is. -/
structure ReadAs (fs : Fields) (l : Link String) : Prop where
  ends : fs.Joins l.source l.target
  id : ∀ id, fs.linkId? = some id → l.id = .text id

theorem linkId?_of_given (h : (Value.field "id" fs).given = true) :
    fs.linkId? = some (Value.field "id" fs).display := if_pos h

theorem linkId?_of_not_given (h : (Value.field "id" fs).given = false) : fs.linkId? = none :=
  if_neg (by simp [h])

theorem linkId?_of_text {id : String} (h : Value.field "id" fs = .text id) (named : id ≠ "") :
    fs.linkId? = some id := by
  have given : (Value.field "id" fs).given = true := by simpa [h, Value.given] using named
  rw [linkId?_of_given given, h]
  rfl

/-- A record names one end at most on each side. -/
theorem Joins.unique {a b c d : String} (h : fs.Joins a b) (h' : fs.Joins c d) : a = c ∧ b = d := by
  obtain ⟨⟨v, source, rfl⟩, ⟨w, target, rfl⟩⟩ := h
  obtain ⟨⟨v', source', rfl⟩, ⟨w', target', rfl⟩⟩ := h'
  obtain rfl := Except.ok.inj (source.symm.trans source')
  obtain rfl := Except.ok.inj (target.symm.trans target')
  exact ⟨rfl, rfl⟩

end Fields

/-- Links that were read, one for each record.  An id that is given is kept; links without one are
numbered upwards from `k`, past the ids that are kept back, and `next` is the number behind them. -/
inductive LinksRead (reserved : List String) :
    Nat → List Fields → List (Link String) → Nat → Prop where
  | nil (k : Nat) : LinksRead reserved k [] [] k
  | given {k next : Nat} {fs : Fields} {rest : List Fields} {id a b : String}
      {ls : List (Link String)} (named : fs.linkId? = some id) (ends : fs.Joins a b)
      (behind : LinksRead reserved k rest ls next) :
      LinksRead reserved k (fs :: rest) (⟨.text id, a, b⟩ :: ls) next
  | numbered {k j next : Nat} {fs : Fields} {rest : List Fields} {a b : String}
      {ls : List (Link String)} (unnamed : fs.linkId? = none) (ends : fs.Joins a b)
      (start : k ≤ j) (apart : Link.autoId j ∉ reserved)
      (behind : LinksRead reserved (j + 1) rest ls next) :
      LinksRead reserved k (fs :: rest) (⟨.text (Link.autoId j), a, b⟩ :: ls) next

theorem LinksRead.readAs {reserved : List String} {k next : Nat} {records : List Fields}
    {ls : List (Link String)} (h : LinksRead reserved k records ls next) :
    List.Forall₂ Fields.ReadAs records ls := by
  induction h with
  | nil k => exact .nil
  | given named ends _ ih =>
    refine .cons ⟨ends, fun id hid => ?_⟩ ih
    rw [Option.some.inj (named.symm.trans hid)]
  | numbered unnamed ends _ _ _ ih =>
    refine .cons ⟨ends, fun id hid => ?_⟩ ih
    rw [unnamed] at hid
    cases hid

namespace Network

variable {n : Network} {fs : Fields} {a b : String} {reserved : List String}

/-! ## One link -/

/-- A link between devices that is given an id is put under it, if it is free. -/
theorem run_readLink_given {id : String} (reserved : List String) (named : fs.linkId? = some id)
    (ends : fs.Joins a b) (source : n.devices.contains a = true)
    (target : n.devices.contains b = true) (free : n.links.contains (.text id) = false) :
    (readLink reserved fs).run n = (.ok (), n.putLink ⟨.text id, a, b⟩) := by
  obtain ⟨⟨v, hsource, rfl⟩, ⟨w, htarget, rfl⟩⟩ := ends
  have given : (Value.field "id" fs).given = true := by
    by_contra missing
    rw [Fields.linkId?_of_not_given (by simpa using missing)] at named
    cases named
  obtain rfl : (Value.field "id" fs).display = id :=
    Option.some.inj ((Fields.linkId?_of_given given).symm.trans named)
  have add := addLink_text (a := v.display) (b := w.display) source target free
  unfold readLink
  dsimp only
  rw [if_pos given, run_bind_of_ok (run_pure _ n), run_lift_bind hsource, run_lift_bind htarget,
    run_get_bind, run_lift_bind add, run_set]

/-- A link between devices that is given no id is put under a number. -/
theorem run_readLink_numbered (reserved : List String) (unnamed : fs.linkId? = none)
    (ends : fs.Joins a b) (source : n.devices.contains a = true)
    (target : n.devices.contains b = true) :
    (readLink reserved fs).run n = (.ok (), (n.takeLinkId reserved).2.putLink
      ⟨.text (n.takeLinkId reserved).1, a, b⟩) := by
  obtain ⟨⟨v, hsource, rfl⟩, ⟨w, htarget, rfl⟩⟩ := ends
  have missing : ¬ (Value.field "id" fs).given = true := by
    intro given
    rw [Fields.linkId?_of_given given] at unnamed
    cases unnamed
  obtain ⟨free, -⟩ := n.takeLinkId_free reserved
  have add : (n.takeLinkId reserved).2.addLink v.display w.display
      (.text (n.takeLinkId reserved).1) = _ := addLink_text source target free
  unfold readLink
  dsimp only
  rw [if_neg missing, run_get_bind, run_bind_of_ok (run_set n _), run_bind_of_ok (run_pure _ _),
    run_lift_bind hsource, run_lift_bind htarget, run_get_bind, run_lift_bind add, run_set]

/-! ## All links -/

/-- Links between devices are put behind the links, one for each record. -/
theorem run_readLinks {records : List Fields}
    (joined : ∀ fs ∈ records, ∃ a b, fs.Joins a b ∧ n.devices.contains a = true ∧
      n.devices.contains b = true)
    (different : (records.filterMap Fields.linkId?).Nodup)
    (kept : ∀ id ∈ records.filterMap Fields.linkId?, id ∈ reserved)
    (free : ∀ id ∈ records.filterMap Fields.linkId?, n.links.contains (.text id) = false) :
    ∃ m ls, (readLinks reserved records).run n = (.ok (), m) ∧ m.devices = n.devices ∧
      m.links.entries = n.links.entries ++ ls.map (fun l => (l.id, l)) ∧
      LinksRead reserved n.nextLink records ls m.nextLink := by
  induction records generalizing n with
  | nil => exact ⟨n, [], rfl, rfl, (List.append_nil _).symm, .nil _⟩
  | cons fs rest ih =>
    obtain ⟨⟨a, b, ends, source, target⟩, joined⟩ := List.forall_mem_cons.1 joined
    -- the other links are read into the network that has this one under a free id
    have go : ∀ (id : String) (next : Nat),
        (readLink reserved fs).run n =
          (.ok (), { n with nextLink := next }.putLink ⟨.text id, a, b⟩) →
        n.links.contains (.text id) = false → id ∉ rest.filterMap Fields.linkId? →
        (rest.filterMap Fields.linkId?).Nodup →
        (∀ x ∈ rest.filterMap Fields.linkId?, x ∈ reserved) →
        (∀ x ∈ rest.filterMap Fields.linkId?, n.links.contains (.text x) = false) →
        ∃ m ls, (readLinks reserved (fs :: rest)).run n = (.ok (), m) ∧ m.devices = n.devices ∧
          m.links.entries = n.links.entries ++ (⟨.text id, a, b⟩ :: ls).map (fun l => (l.id, l)) ∧
          LinksRead reserved next rest ls m.nextLink := by
      intro id next first new apart different kept free
      have later : ∀ x ∈ rest.filterMap Fields.linkId?,
          (n.links.put (.text id) ⟨.text id, a, b⟩).contains (.text x) = false := by
        intro x hx
        rw [Bool.eq_false_iff]
        intro there
        rcases Roster.contains_put_iff.1 there with same | there
        · obtain rfl := Value.text.inj same
          exact apart hx
        · rw [free x hx] at there
          cases there
      obtain ⟨m, ls, run, devices, links, read⟩ :=
        ih (n := { n with nextLink := next }.putLink ⟨.text id, a, b⟩) joined different kept later
      refine ⟨m, ls, ?_, devices, ?_, read⟩
      · rw [readLinks, run_bind_of_ok first, run]
      · have none : n.links.get? (.text id) = none := by simpa [Roster.contains] using new
        have put : (n.links.put (.text id) ⟨.text id, a, b⟩).entries = _ :=
          Roster.entries_put_of_none none
        rw [links, List.map_cons, List.append_cons, ← put]
        rfl
    cases named : fs.linkId? with
    | some id =>
      rw [List.filterMap_cons_some named] at different kept free
      obtain ⟨apart, different⟩ := List.nodup_cons.1 different
      obtain ⟨-, kept⟩ := List.forall_mem_cons.1 kept
      obtain ⟨new, free⟩ := List.forall_mem_cons.1 free
      have first := run_readLink_given reserved named ends source target new
      obtain ⟨m, ls, run, devices, links, read⟩ :=
        go id n.nextLink first new apart different kept free
      exact ⟨m, _, run, devices, links, .given named ends read⟩
    | none =>
      rw [List.filterMap_cons_none named] at different kept free
      obtain ⟨k, ⟨⟨start, new, unreserved⟩, -⟩, taken⟩ := n.takeLinkId_first reserved
      have first := run_readLink_numbered reserved named ends source target
      rw [taken] at first
      obtain ⟨m, ls, run, devices, links, read⟩ := go (Link.autoId k) (k + 1) first new
        (fun later => unreserved (kept _ later)) different kept free
      exact ⟨m, _, run, devices, links, .numbered named ends start unreserved read⟩

end Network

end NetLab
