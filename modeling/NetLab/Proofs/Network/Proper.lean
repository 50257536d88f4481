import NetLab.Proofs.Collection.Index
import NetLab.Proofs.Network.Operation
import NetLab.Proofs.Text.Blank

set_option autoImplicit false

/-!
# Proper networks

What holds of every network that was made by its own operations: a device stands under its id,
which is not empty and has no blanks around it, keeps VLAN 1, and keeps every interface under the
name that is its key.  This module shows it for the operations one by one; reading documents and
sequences of operations are the subject of `Proofs.Network.Build`.
-/

namespace NetLab

theorem Value.plain_of_key {v k : Value} (h : v.key = .ok k) : v.plain = k := by
  rw [Value.key] at h
  split at h
  · cases h
  · cases h
  · cases h
    rfl

/-! ## Proper devices -/

/-- What holds of a device that stands under an id. -/
structure Device.Proper (uid : String) (d : Device) : Prop where
  trimmed : Text.trim uid = uid
  named : uid ≠ ""
  uid : d.uid = uid
  firstVlan : d.vlans.contains 1 = true
  keyed : ∀ k i, d.interfaces.get? k = some i → i.key.plain = k

namespace Device.Proper

variable {uid : String} {d : Device}

theorem new {kind : Kind} {label address : Value} {status : Status} (trimmed : Text.trim uid = uid)
    (named : uid ≠ "") : (Device.new uid kind label address status).Proper uid where
  trimmed := trimmed
  named := named
  uid := rfl
  firstVlan := rfl
  keyed := by
    intro k i hi
    cases hi

/-- A device keeps an interface under its own key. -/
theorem putInterface (h : d.Proper uid) (i : Interface) : (d.putInterface i).Proper uid where
  trimmed := h.trimmed
  named := h.named
  uid := h.uid
  firstVlan := h.firstVlan
  keyed := Roster.forall_put h.keyed rfl

theorem withVlans {t : Index Int Value} (h : d.Proper uid) (ht : t.contains 1 = true) :
    ({ d with vlans := t } : Device).Proper uid :=
  ⟨h.trimmed, h.named, h.uid, ht, h.keyed⟩

end Device.Proper

/-! ## VLAN tables that keep VLAN 1 -/

namespace Index

variable {t : Index Int Value} {vlan v : Int} {name : Value}

theorem contains_put (h : t.contains v = true) : (t.put vlan name).contains v = true := by
  rw [contains_iff] at h ⊢
  obtain ⟨x, hx⟩ := h
  rw [get?_put]
  split
  · exact ⟨name, rfl⟩
  · exact ⟨x, hx⟩

theorem contains_putNew_self : (t.putNew vlan name).contains vlan = true := by
  rw [putNew]
  split
  · next h => exact h
  · rw [contains_iff]
    exact ⟨name, by rw [get?_put, if_pos rfl]⟩

theorem contains_putNew (h : t.contains v = true) : (t.putNew vlan name).contains v = true := by
  rw [putNew]
  split
  · exact h
  · exact contains_put h

theorem contains_erase (h : t.contains v = true) (hv : v ≠ vlan) :
    (t.erase vlan).contains v = true := by
  rw [contains_iff] at h ⊢
  rwa [get?_erase, if_neg hv]

end Index

theorem contains_writeVlan (vlan : Int) (name : Value) (t : Index Int Value) :
    (Network.writeVlan vlan name t).contains 1 = true := by
  have h : ((t.putNew 1 (.text firstVlanName)).putNew vlan
      (.text (defaultVlanName vlan))).contains 1 = true :=
    Index.contains_putNew Index.contains_putNew_self
  rw [Network.writeVlan]
  split
  · exact Index.contains_put h
  · exact h

/-! ## Proper networks -/

theorem Link.touches_source (l : Link String) : l.touches l.source = true := by simp [touches]

theorem Link.touches_target (l : Link String) : l.touches l.target = true := by simp [touches]

namespace Network

variable {n m : Network} {uid : String}

/-- Every device is proper where it stands. -/
def Proper (n : Network) : Prop := ∀ uid d, n.devices.get? uid = some d → d.Proper uid

theorem proper_empty : empty.Proper := by
  intro uid d h
  cases h

namespace Proper

theorem alter {f : Device → Device} (h : n.Proper)
    (hf : ∀ d, d.Proper (Text.trim uid) → (f d).Proper (Text.trim uid)) :
    (n.alter uid f).Proper := by
  intro k d hd
  rw [get?_alter, Option.map_eq_some_iff] at hd
  obtain ⟨old, hold, rfl⟩ := hd
  split
  · next hk =>
    subst hk
    exact hf old (h _ old hold)
  · exact h k old hold

theorem alter_of_found {d : Device} {f : Device → Device} (h : n.Proper)
    (found : n.devices.get? uid = some d) (hf : (f d).Proper uid) : (n.alter uid f).Proper := by
  have trimmed := (h _ _ found).trimmed
  intro k x hx
  rw [get?_alter, Option.map_eq_some_iff, trimmed] at hx
  obtain ⟨old, hold, rfl⟩ := hx
  split
  · next hk =>
    subst hk
    obtain rfl : d = old := Option.some.inj (found.symm.trans hold)
    exact hf
  · exact h k old hold

theorem update {f : Device → Device} (h : n.Proper) (hm : n.update uid f = .ok m)
    (hf : ∀ d, d.Proper (Text.trim uid) → (f d).Proper (Text.trim uid)) : m.Proper := by
  rw [(update_eq_ok_iff.1 hm).2]
  exact h.alter hf

/-- The devices stand under their ids, in the order of the keys. -/
theorem map_uid (h : n.Proper) : n.devices.values.map Device.uid = n.devices.keys := by
  rw [Roster.values, Roster.keys, List.map_map]
  refine List.map_congr_left fun e he => ?_
  exact (h e.1 e.2 (Roster.get?_eq_some_iff.2 he)).uid

/-- Only the devices of a network count. -/
theorem congr (h : n.Proper) (hm : m.devices = n.devices) : m.Proper := by
  intro k d hd
  rw [hm] at hd
  exact h k d hd

theorem put {d : Device} (h : n.Proper) (hd : d.Proper d.uid) :
    Proper { n with devices := n.devices.put d.uid d } :=
  Roster.forall_put h hd

end Proper

/-! ## What the operations keep -/

/-- A device that is added is new, or the one that has the id is given. -/
theorem addDevice_cases {e : Entry} {d : Device} (h : n.addDevice e = .ok (d, m)) :
    (n.devices.get? (Text.trim e.uid) = some d ∧ m = n) ∨
      (n.devices.get? (Text.trim e.uid) = none ∧
        m = { n with devices := n.devices.put (Text.trim e.uid) d } ∧
        ∃ kind status, readKind e.kind = .ok kind ∧ readStatus e.status = .ok status ∧
          Text.trim e.uid ≠ "" ∧
          d = Device.new (Text.trim e.uid) kind e.label e.address status) := by
  rw [addDevice] at h
  dsimp only at h
  split at h
  · cases h
  · next hne =>
    obtain ⟨kind, hkind, h⟩ := bind_eq_ok_iff.1 h
    obtain ⟨status, hstatus, h⟩ := bind_eq_ok_iff.1 h
    split at h
    · next old hold =>
      obtain ⟨rfl, rfl⟩ : old = d ∧ n = m := by simpa using h
      exact Or.inl ⟨hold, rfl⟩
    · next hnone =>
      obtain ⟨rfl, rfl⟩ :
          Device.new (Text.trim e.uid) kind e.label e.address status = d ∧ _ = m := by
        simpa using h
      exact Or.inr ⟨hnone, rfl, kind, status, hkind, hstatus, hne, rfl⟩

/-- A device that was added stands under its id, whether it is new or was there before. -/
theorem addDevice_eq_ok {e : Entry} {d : Device} (h : n.Proper) (hd : n.addDevice e = .ok (d, m)) :
    (m = n ∧ n.devices.get? d.uid = some d) ∨
      (n.devices.get? d.uid = none ∧ m = { n with devices := n.devices.put d.uid d } ∧
        ∃ kind status, readKind e.kind = .ok kind ∧ readStatus e.status = .ok status ∧
          Text.trim e.uid ≠ "" ∧
          d = Device.new (Text.trim e.uid) kind e.label e.address status) := by
  obtain ⟨hold, rfl⟩ | ⟨hnone, rfl, kind, status, hkind, hstatus, hne, rfl⟩ := addDevice_cases hd
  · have huid := (h _ _ hold).uid
    exact Or.inl ⟨rfl, by rw [huid]; exact hold⟩
  · exact Or.inr ⟨hnone, rfl, kind, status, hkind, hstatus, hne, rfl⟩

theorem Proper.addDevice {e : Entry} {d : Device} (h : n.Proper)
    (hd : n.addDevice e = .ok (d, m)) : m.Proper ∧ m.devices.get? d.uid = some d := by
  obtain ⟨rfl, hget⟩ | ⟨_, rfl, kind, status, _, _, hne, hnew⟩ := addDevice_eq_ok h hd
  · exact ⟨h, hget⟩
  · have hproper : d.Proper d.uid := by
      rw [hnew]
      exact Device.Proper.new (Text.trim_trim _) hne
    exact ⟨h.put hproper, by rw [Roster.get?_put, if_pos rfl]⟩

/-- A removal brings in no device. -/
theorem get?_devices_removeDevice {k : String} {d : Device}
    (h : (n.removeDevice uid).devices.get? k = some d) : n.devices.get? k = some d := by
  rw [removeDevice] at h
  split at h
  · exact (Roster.get?_erase_eq_some_iff.1 h).2
  · exact h

/-- A removal brings in no link. -/
theorem get?_links_removeDevice {k : Value} {l : Link String}
    (h : (n.removeDevice uid).links.get? k = some l) : n.links.get? k = some l := by
  rw [removeDevice] at h
  split at h
  · rw [Roster.get?_filter, Option.filter_eq_some_iff] at h
    exact h.1
  · exact h

/-- The devices at which a link ends that a removal leaves are left as well. -/
theorem contains_removeDevice {k : Value} {l : Link String} {u : String}
    (h : (n.removeDevice uid).links.get? k = some l) (touches : l.touches u = true)
    (there : n.devices.contains u = true) : (n.removeDevice uid).devices.contains u = true := by
  rw [removeDevice] at h ⊢
  split at h
  · next known =>
    rw [if_pos known]
    rw [Roster.get?_filter, Option.filter_eq_some_iff] at h
    have other : u ≠ Text.trim uid := by
      rintro rfl
      rw [touches] at h
      cases h.2
    obtain ⟨d, hd⟩ := Roster.contains_iff.1 there
    exact Roster.contains_iff.2 ⟨d, Roster.get?_erase_eq_some_iff.2 ⟨other, hd⟩⟩
  · next absent =>
    rwa [if_neg absent]

theorem Proper.removeDevice (h : n.Proper) : (n.removeDevice uid).Proper :=
  fun k d hd => h k d (get?_devices_removeDevice hd)

/-- A link that is added joins two devices, and its id is a new key. -/
theorem addLink_eq_ok {a b : String} {id given : Value}
    (h : n.addLink a b given = .ok (id, m)) : n.devices.contains (Text.trim a) = true ∧
      n.devices.contains (Text.trim b) = true ∧
      ((given = .null ∧ m = ((n.takeLinkId []).2.putLink
          ⟨.text (n.takeLinkId []).1, Text.trim a, Text.trim b⟩)) ∨
        given ≠ .null ∧ ∃ k, given.key = .ok k ∧ n.links.contains k = false ∧
          m = n.putLink ⟨given, Text.trim a, Text.trim b⟩) := by
  rw [addLink.eq_def] at h
  dsimp only at h
  split at h
  · cases h
  · next hends =>
    obtain ⟨ha, hb⟩ : n.devices.contains (Text.trim a) = true ∧
        n.devices.contains (Text.trim b) = true := by simpa using hends
    refine ⟨ha, hb, ?_⟩
    cases given with
    | null =>
      obtain ⟨_, rfl⟩ : _ ∧ _ = m := by simpa using h
      exact Or.inl ⟨rfl, rfl⟩
    | _ =>
      obtain ⟨k, hk, h⟩ := bind_eq_ok_iff.1 h
      split at h
      · cases h
      · next hfree =>
        obtain ⟨_, rfl⟩ : _ ∧ _ = m := by simpa using h
        exact Or.inr ⟨nofun, k, hk, by simpa using hfree, rfl⟩

/-- A link between devices is put under an id that is free. -/
theorem addLink_text {a b id : String} (source : n.devices.contains (Text.trim a) = true)
    (target : n.devices.contains (Text.trim b) = true)
    (free : n.links.contains (.text id) = false) :
    n.addLink a b (.text id) =
      .ok (.text id, n.putLink ⟨.text id, Text.trim a, Text.trim b⟩) := by
  rw [addLink.eq_def]
  simp [source, target, free, Value.key, Value.plain, bind, Except.bind]

theorem devices_addLink {a b : String} {id given : Value}
    (h : n.addLink a b given = .ok (id, m)) : m.devices = n.devices := by
  obtain ⟨-, -, ⟨-, rfl⟩ | ⟨-, k, -, -, rfl⟩⟩ := addLink_eq_ok h
  · rfl
  · rfl

/-- A link that is removed is dropped under its id, if there is a link at all. -/
theorem removeLink_eq_ok {id : Value} (h : n.removeLink id = .ok m) :
    m = n ∨ ∃ k, id.key = .ok k ∧ m = { n with links := n.links.erase k } := by
  rw [removeLink] at h
  split at h
  · cases h
    exact Or.inl rfl
  · obtain ⟨k, hk, h⟩ := bind_eq_ok_iff.1 h
    cases h
    exact Or.inr ⟨k, hk, rfl⟩

theorem devices_removeLink {id : Value} (h : n.removeLink id = .ok m) : m.devices = n.devices := by
  obtain rfl | ⟨k, -, rfl⟩ := removeLink_eq_ok h
  · rfl
  · rfl

/-- Removing a link brings in no other. -/
theorem get?_links_removeLink {id key : Value} {l : Link String} (h : n.removeLink id = .ok m)
    (hl : m.links.get? key = some l) : n.links.get? key = some l := by
  obtain rfl | ⟨k, -, rfl⟩ := removeLink_eq_ok h
  · exact hl
  · exact (Roster.get?_erase_eq_some_iff.1 hl).2

namespace Proper

theorem ensureInterface {name : Value} {i : Interface} (h : n.Proper)
    (hm : n.ensureInterface uid name = .ok (i, m)) : m.Proper := by
  obtain ⟨d, k, _, _, ⟨_, rfl⟩ | ⟨_, _, rfl⟩⟩ := ensureInterface_eq_ok hm
  · exact h
  · exact h.alter fun d hd => hd.putInterface _

theorem editInterface {name : Value} {f : Interface → Interface} {i : Interface} (h : n.Proper)
    (hm : n.editInterface uid name f = .ok (i, m)) : m.Proper := by
  obtain ⟨_, _, _, _, _, _, _, rfl⟩ := editInterface_eq_ok hm
  exact h.alter fun d hd => hd.putInterface _

theorem editLine {line : Value} {f : Line → Line} {l : Line} (h : n.Proper)
    (hm : n.editLine uid line f = .ok (l, m)) : m.Proper := by
  obtain ⟨_, _, _, _, _, rfl⟩ := editLine_eq_ok hm
  exact h.alter fun d hd => ⟨hd.trimmed, hd.named, hd.uid, hd.firstVlan, hd.keyed⟩

theorem setVlan {vlan : Int} {name : Value} (h : n.Proper)
    (hm : n.setVlan uid vlan name = .ok (.ok m)) : m.Proper := by
  obtain ⟨_, _, _, _, _, rfl⟩ := setVlan_eq_ok hm
  exact h.alter fun d hd => hd.withVlans (contains_writeVlan vlan name d.vlans)

theorem setVlanAt {number : Double} {name : Value} (h : n.Proper) :
    (n.setVlanAt uid number name).2.Proper := by
  unfold Network.setVlanAt
  split
  · exact h
  · split
    · exact h
    · split
      · exact h
      · split
        · exact h.alter fun d hd => hd.withVlans (contains_writeVlan _ _ d.vlans)
        · exact h.alter fun d hd => hd.withVlans Index.contains_putNew_self

theorem setVlanOf {vlan name : Value} (h : n.Proper) : (n.setVlanOf uid vlan name).2.Proper := by
  have whole : ∀ v : Int, (n.setVlanOf uid (.int v) name).2.Proper := by
    intro v
    rw [setVlanOf_int]
    split
    · next m hm => exact h.setVlan hm
    · exact h
    · exact h
  unfold Network.setVlanOf
  split
  · exact whole _
  · exact whole _
  · exact h.setVlanAt
  · split
    · exact h
    · exact h

theorem removeVlan {vlan : Int} (h : n.Proper)
    (hm : n.removeVlan uid vlan = .ok (.ok m)) : m.Proper := by
  obtain ⟨_, _, _, hv, rfl⟩ := removeVlan_eq_ok hm
  exact h.alter fun d hd => hd.withVlans (Index.contains_erase hd.firstVlan (Ne.symm hv))

theorem removeVlanOf {vlan : Value} (h : n.Proper)
    (hm : n.removeVlanOf uid vlan = .ok (.ok m)) : m.Proper := by
  obtain rfl | ⟨v, hm⟩ := removeVlanOf_eq_ok hm
  · exact h
  · exact h.removeVlan hm

end Proper

end Network

end NetLab
