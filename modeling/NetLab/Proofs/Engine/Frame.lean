import NetLab.Proofs.Engine.Coherence

set_option autoImplicit false

/-!
# What one line may change

A line leaves the devices and their order, the links, and of every device its id, kind, state and
management address.  On the device of its session it makes at most one of the edits that are listed
for the mode (`Device.Edit`), and of all other devices at most one end host at the other end of a
link takes a new VLAN tag, in interface mode only.
-/

namespace NetLab

/-- A link joins two devices. -/
def Link.Joins (l : Link String) (a b : String) : Prop :=
  (l.source = a ∧ l.target = b) ∨ (l.source = b ∧ l.target = a)

theorem Link.joins_other {l : Link String} {uid : String} (h : l.touches uid = true) :
    l.Joins uid (l.other uid) := by
  rw [Link.other]
  by_cases hs : l.source = uid
  · rw [if_pos (by simpa using hs)]
    exact Or.inl ⟨hs, rfl⟩
  · rw [if_neg (by simpa using hs)]
    have ht : l.target = uid := by simpa [Link.touches, hs] using h
    exact Or.inr ⟨rfl, ht⟩

namespace Network

variable {n m : Network} {uid : String} {p : Place}

/-- A line that is given on a device at a place may tag the host: it configures an interface, and
the host is an end host joined to the device. -/
structure MayTag (n : Network) (uid : String) (p : Place) (host : String) : Prop where
  mode : p.mode = .interface
  joined : ∃ l ∈ n.links.values, l.Joins uid host
  isHost : ∃ d, n.devices.get? host = some d ∧ d.kind.isEndHost = true

/-- A device becomes another one, up to the VLAN tag if it is the host that is tagged. -/
def Becomes (m : Network) (host : Option String) (k : String) (d : Device) : Prop :=
  m.devices.get? k = some d ∨
    (host = some k ∧ ∃ vlan : Int, m.devices.get? k = some { d with displayVlan := .int vlan })

/-- What one line, given on a device at a place, may make of a network. -/
structure Frame (n m : Network) (uid : String) (p : Place) : Prop where
  keys : m.devices.keys = n.devices.keys
  links : m.links = n.links
  nextLink : m.nextLink = n.nextLink
  identity : ∀ k d d', n.devices.get? k = some d → m.devices.get? k = some d' →
    d'.uid = d.uid ∧ d'.kind = d.kind ∧ d'.status = d.status ∧ d'.address = d.address
  settings : ∃ host : Option String, (∀ k, host = some k → n.MayTag uid p k) ∧
    (∀ k d, k ≠ uid → n.devices.get? k = some d → m.Becomes host k d) ∧
    ∀ d, n.devices.get? uid = some d → ∃ d', (d' = d ∨ d.Edit p d') ∧ m.Becomes host uid d'

theorem frame_refl (n : Network) (uid : String) (p : Place) : n.Frame n uid p where
  keys := rfl
  links := rfl
  nextLink := rfl
  identity := by
    intro k d d' hd hd'
    obtain rfl := Option.some.inj (hd.symm.trans hd')
    exact ⟨rfl, rfl, rfl, rfl⟩
  settings := by
    refine ⟨none, fun k hk => ?_, fun k d _ hd => Or.inl hd, fun d hd => ?_⟩
    · cases hk
    · exact ⟨d, Or.inl rfl, Or.inl hd⟩

end Network

/-- An edit leaves what a device is. -/
theorem Device.Edit.identity {p : Place} {d d' : Device} (h : d.Edit p d') :
    d'.uid = d.uid ∧ d'.kind = d.kind ∧ d'.status = d.status ∧ d'.address = d.address := by
  cases h <;> exact ⟨rfl, rfl, rfl, rfl⟩

namespace Scene.Change

variable {s s' : Scene} {d : Device}

/-- Every change of a scene stays within the frame. -/
theorem frame (h : s.Change d s') (hn : s.network.Proper)
    (found : s.network.devices.get? d.uid = some d) :
    s.network.Frame s'.network d.uid s.standing.place := by
  have trimmed : Text.trim d.uid = d.uid := (hn _ _ found).trimmed
  have own : ∀ f : Device → Device,
      (s.network.alter d.uid f).devices.get? d.uid = some (f d) := by
    intro f
    rw [Network.get?_alter, found, Option.map_some, if_pos trimmed.symm]
  have other : ∀ (f : Device → Device) (k : String) (x : Device), k ≠ d.uid →
      s.network.devices.get? k = some x →
      (s.network.alter d.uid f).devices.get? k = some x := by
    intro f k x hk hx
    rw [Network.get?_alter, hx, Option.map_some, if_neg (by rwa [trimmed])]
  have identity : ∀ f : Device → Device, d.Edit s.standing.place (f d) → ∀ k x x',
      s.network.devices.get? k = some x →
      (s.network.alter d.uid f).devices.get? k = some x' →
      x'.uid = x.uid ∧ x'.kind = x.kind ∧ x'.status = x.status ∧ x'.address = x.address := by
    intro f edit k x x' hx hx'
    by_cases hk : k = d.uid
    · subst hk
      obtain rfl := Option.some.inj (found.symm.trans hx)
      obtain rfl := Option.some.inj ((own f).symm.trans hx')
      exact edit.identity
    · obtain rfl := Option.some.inj ((other f k x hk hx).symm.trans hx')
      exact ⟨rfl, rfl, rfl, rfl⟩
  cases h with
  | stay _ => exact Network.frame_refl _ _ _
  | edit edit _ =>
    refine ⟨Network.keys_alter _, rfl, rfl, identity _ edit, none, fun k hk => ?_, ?_, ?_⟩
    · cases hk
    · exact fun k x hk hx => Or.inl (other _ k x hk hx)
    · intro x hx
      obtain rfl := Option.some.inj (found.symm.trans hx)
      exact ⟨_, Or.inr edit, Or.inl (own _)⟩
  | @tag f st l host vlan edit _ mode link joined neighbour isHost =>
    have hhost : Text.trim (l.other d.uid) = l.other d.uid := (hn _ _ neighbour).trimmed
    have becomes : ∀ (k : String) (x : Device),
        (s.network.alter d.uid f).devices.get? k = some x →
        Network.Becomes ((s.network.alter d.uid f).alter (l.other d.uid) fun h =>
          { h with displayVlan := .int vlan }) (some (l.other d.uid)) k x := by
      intro k x hx
      rw [Network.Becomes, Network.get?_alter, hx, Option.map_some, hhost]
      split
      · next hk => exact Or.inr ⟨by rw [hk], vlan, rfl⟩
      · exact Or.inl rfl
    refine ⟨(Network.keys_alter _).trans (Network.keys_alter _), rfl, rfl, ?_,
      some (l.other d.uid), ?_, ?_, ?_⟩
    · intro k x x' hx hx'
      rw [Network.get?_alter, Option.map_eq_some_iff] at hx'
      obtain ⟨y, hy, rfl⟩ := hx'
      have hsame := identity f edit k x y hx hy
      split
      · exact hsame
      · exact hsame
    · intro k hk
      obtain rfl := Option.some.inj hk
      exact ⟨mode, ⟨l, link, Link.joins_other joined⟩, host, neighbour, isHost⟩
    · exact fun k x hk hx => becomes k x (other f k x hk hx)
    · intro x hx
      obtain rfl := Option.some.inj (found.symm.trans hx)
      exact ⟨f d, Or.inr edit, becomes _ _ (own f)⟩

end Scene.Change

namespace Engine

variable {e : Engine} {id : Nat}

/-- In every run over a network that operations made, whatever line is given in whichever session
stays within the frame of the place in which polling finds the session. -/
theorem execute_frame (h : e.Reachable) {s : Session} (hs : (e.poll id).session? id = some s)
    (line : String) : e.network.Frame (e.execute id line).2.network s.uid s.place := by
  obtain hall | ⟨s₀, hs₀, hopen⟩ := closed_or_open e id
  · rw [execute_of_closed hall]
    exact Network.frame_refl _ _ _
  obtain ⟨d, s', found, hsuits, change, hnetwork⟩ := execute_change h.isCoherent hs₀ hopen line
  rw [← standing_of_poll hs₀ hs] at hsuits change
  have huid : s.uid = d.uid := hsuits.uid
  rw [hnetwork, huid]
  exact change.frame h.isCoherent.proper found

/-- The port of a switch to a PC is put into another VLAN. -/
theorem execute_frame_access_vlan :
    let e := run
      { network := Network.build [.addDevice { uid := "S1", kind := .text "SWITCH_L2" },
          .addDevice { uid := "P1", kind := .text "PC" }, .addLink "S1" "P1" .null]
        bootDelay := usualBootDelay }
      [.opens "S1", .line 0 "enable", .line 0 "conf t", .line 0 "interface g0/1"]
    e.Reachable ∧ ∃ s, (e.poll 0).session? 0 = some s ∧ s.mode = .interface ∧
      e.network.Frame (e.execute 0 "switchport access vlan 10").2.network s.uid s.place := by
  intro e
  have reachable : e.Reachable := ⟨_, _, _, _, _, _, rfl⟩
  have hmode : ((e.poll 0).session? 0).map Session.mode = some .interface := by decide +kernel
  obtain ⟨s, hs, hm⟩ := Option.map_eq_some_iff.1 hmode
  exact ⟨reachable, s, hs, hm, execute_frame reachable hs _⟩

end Engine

end NetLab
