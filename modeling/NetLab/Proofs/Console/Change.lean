import NetLab.Proofs.Console.Dispatch
import NetLab.Proofs.Network.Proper

set_option autoImplicit false

/-!
# What a command makes of its device

In a proper network, on a session that suits its device, every effect of a command is one of three:
it leaves the network, it edits the device of the session in one listed way (`Device.Edit`), or it
sets the access VLAN of a port and gives the end host at that port the tag.  In each case the
session suits the device afterwards (`Effect.change`).  Statements on networks and sessions are read
off this case analysis.
-/

namespace NetLab

/-! ## Sessions that suit a device -/

/-- What the place is about is something that the device has. -/
inductive Place.Fits (d : Device) : Place → Prop where
  | user : Fits d { mode := .user }
  | privileged : Fits d { mode := .privileged }
  | config : Fits d { mode := .config }
  | interface {name : String} (there : d.interfaces.contains (.text name) = true) :
      Fits d { mode := .interface, interface := .text name }
  | vlan {vlan : Int} (low : minVlan ≤ vlan) (high : vlan ≤ maxVlan)
      (supported : d.supportsVlans = true) (there : d.vlans.contains vlan = true) :
      Fits d { mode := .vlan, vlan := .int vlan }
  | line (name : LineName) : Fits d { mode := .line, line := .text name.name }

/-- The session is one on the device, shows its host name, and stands at a place that fits. -/
structure Standing.Suits (d : Device) (s : Standing) : Prop where
  uid : s.uid = d.uid
  hostname : s.hostname = d.hostname
  place : s.place.Fits d

namespace Place.Fits

variable {d d' : Device} {p : Place}

/-- A place fits a device that has at least as much to be about. -/
theorem mono (h : p.Fits d)
    (hi : ∀ k, d.interfaces.contains k = true → d'.interfaces.contains k = true)
    (hv : ∀ v, p.mode = .vlan → d.vlans.contains v = true → d'.vlans.contains v = true)
    (hk : d'.kind = d.kind) : p.Fits d' := by
  cases h with
  | user => exact .user
  | privileged => exact .privileged
  | config => exact .config
  | interface there => exact .interface (hi _ there)
  | vlan low high supported there =>
    refine .vlan low high ?_ (hv _ rfl there)
    rwa [Device.supportsVlans, hk]
  | line name => exact .line name

theorem user_eq (h : p.Fits d) (hm : p.mode = .user) : p = { mode := .user } := by
  cases h with
  | user => rfl
  | _ => cases hm

theorem interface_eq (h : p.Fits d) (hm : p.mode = .interface) :
    ∃ name, p.interface = .text name ∧ d.interfaces.contains (.text name) = true := by
  cases h with
  | interface there => exact ⟨_, rfl, there⟩
  | _ => cases hm

theorem vlan_eq (h : p.Fits d) (hm : p.mode = .vlan) :
    ∃ vlan, p.vlan = .int vlan ∧ d.vlans.contains vlan = true := by
  cases h with
  | vlan _ _ _ there => exact ⟨_, rfl, there⟩
  | _ => cases hm

theorem line_eq (h : p.Fits d) (hm : p.mode = .line) :
    ∃ name : LineName, p.line = .text name.name := by
  cases h with
  | line name => exact ⟨name, rfl⟩
  | _ => cases hm

end Place.Fits

theorem Mode.LeadsTo.fits {m m' : Mode} (h : m.LeadsTo m') (d : Device) :
    Place.Fits d { mode := m' } := by
  cases h with
  | leavePrivileged => exact .user
  | configure => exact .config
  | leaveConfig => exact .privileged
  | leaveSub _ _ => exact .config
  | finish _ => exact .privileged

/-! ## Edits of a device -/

/-- What one command makes of the device that it is given on, by the place of the session. -/
inductive Device.Edit (p : Place) (d : Device) : Device → Prop where
  | name {name : String} (mode : p.mode = .config) (named : name ≠ "") :
      Edit p d { d with hostname := .text name, label := .text name }
  | domainName (name : String) (mode : p.mode = .config) :
      Edit p d { d with domainName := (Value.text name).ifGiven }
  | routing (enabled : Bool) (mode : p.mode = .config) : Edit p d { d with routing := enabled }
  | addVlan {vlan : Int} (mode : p.mode = .config) (low : minVlan ≤ vlan) (high : vlan ≤ maxVlan)
      (new : d.vlans.get? vlan = none) :
      Edit p d { d with vlans := d.vlans.put vlan (.text (defaultVlanName vlan)) }
  | removeVlan {vlan : Int} (mode : p.mode = .config) (other : vlan ≠ 1) :
      Edit p d { d with vlans := d.vlans.erase vlan }
  | addInterface {name : String} (mode : p.mode = .config ∨ p.mode = .interface)
      (new : d.interfaces.get? (.text name) = none) :
      Edit p d { d with interfaces := d.interfaces.put (.text name) { key := .text name } }
  | setInterface {name : String} {i : Interface} {f : Interface → Interface}
      (mode : p.mode = .interface) (current : p.interface = .text name)
      (there : d.interfaces.get? (.text name) = some i) (setting : Interface.IsSetting f) :
      Edit p d { d with interfaces := d.interfaces.put (.text name) (f i) }
  | nameVlan {vlan : Int} {name : String} (mode : p.mode = .vlan) (current : p.vlan = .int vlan)
      (there : d.vlans.contains vlan = true) :
      Edit p d { d with vlans := d.vlans.put vlan (.text name) }
  | setLine {name : LineName} {f : Line → Line} (mode : p.mode = .line)
      (current : p.line = .text name.name) (setting : Line.IsSetting f) :
      Edit p d { d with lines := d.lines.set name (some (f ((d.lines.get? name).getD {}))) }

/-- No setting touches the name under which an interface is kept. -/
theorem Interface.IsSetting.withKey {f : Interface → Interface} (h : IsSetting f) (i : Interface) :
    { f i with key := i.key } = f i := by
  cases h <;> rfl

theorem Interface.IsSetting.key {f : Interface → Interface} (h : IsSetting f) (i : Interface) :
    (f i).key = i.key :=
  (congrArg Interface.key (h.withKey i)).symm

theorem LineName.ofValue?_name (name : LineName) : ofValue? (.text name.name) = some name := by
  cases name <;> rfl

namespace Device.Edit

variable {p : Place} {d d' : Device}

theorem uid (h : d.Edit p d') : d'.uid = d.uid := by
  cases h <;> rfl

theorem proper {uid : String} (h : d.Edit p d') (hd : d.Proper uid) : d'.Proper uid := by
  cases h with
  | addVlan _ _ _ _ => exact hd.withVlans (Index.contains_put hd.firstVlan)
  | removeVlan _ other =>
    exact hd.withVlans (Index.contains_erase hd.firstVlan (Ne.symm other))
  | @addInterface name _ _ => exact hd.putInterface { key := .text name }
  | @setInterface name i f _ _ there setting =>
    have hkey : (f i).key.plain = .text name := by rw [setting.key, hd.keyed _ _ there]
    have hput := hd.putInterface (f i)
    rwa [Device.putInterface, hkey] at hput
  | nameVlan _ _ _ => exact hd.withVlans (Index.contains_put hd.firstVlan)
  | _ => exact ⟨hd.trimmed, hd.named, hd.uid, hd.firstVlan, hd.keyed⟩

/-- The place at which an edit was made still fits. -/
theorem fits (h : d.Edit p d') (hp : p.Fits d) : p.Fits d' := by
  cases h with
  | name _ _ => exact hp.mono (fun _ h => h) (fun _ _ h => h) rfl
  | domainName _ _ => exact hp.mono (fun _ h => h) (fun _ _ h => h) rfl
  | routing _ _ => exact hp.mono (fun _ h => h) (fun _ _ h => h) rfl
  | addVlan _ _ _ _ => exact hp.mono (fun _ h => h) (fun _ _ h => Index.contains_put h) rfl
  | removeVlan mode _ =>
    refine hp.mono (fun _ h => h) (fun _ hm _ => ?_) rfl
    cases mode.symm.trans hm
  | addInterface _ _ => exact hp.mono (fun _ h => Roster.contains_put h) (fun _ _ h => h) rfl
  | setInterface _ _ _ _ => exact hp.mono (fun _ h => Roster.contains_put h) (fun _ _ h => h) rfl
  | nameVlan _ _ _ => exact hp.mono (fun _ h => h) (fun _ _ h => Index.contains_put h) rfl
  | setLine _ _ _ => exact hp.mono (fun _ h => h) (fun _ _ h => h) rfl

end Device.Edit

/-- The tag that is shown for a device is nothing that a place could be about. -/
theorem Standing.Suits.displayVlan {d : Device} {s : Standing} (h : s.Suits d) (v : Value) :
    s.Suits { d with displayVlan := v } :=
  ⟨h.uid, h.hostname, h.place.mono (fun _ h => h) (fun _ _ h => h) rfl⟩

/-! ## Links at a port -/

theorem Value.perm_of_sortBy {α : Type} {key : α → Value} {xs ys : List α}
    (h : sortBy key xs = .ok ys) : ys.Perm xs := by
  rw [sortBy] at h
  split at h
  · cases h
    exact List.mergeSort_perm xs _
  · cases h

/-- The link at a port of a device is one of the links, and ends at the device. -/
theorem Port.mem_of_linkFor? {uid : String} {name : Value} {links : List (Link String)}
    {l : Link String} (h : linkFor? uid name links = .ok (some l)) :
    l ∈ links ∧ l.touches uid = true := by
  obtain ⟨i, _, h⟩ := bind_eq_ok_iff.1 h
  cases i with
  | none => cases h
  | some i =>
    dsimp only at h
    split at h
    · cases h
    · obtain ⟨ls, hsorted, h⟩ := bind_eq_ok_iff.1 h
      have hget : ls[i.toNat]? = some l := by simpa using h
      have hmem := (Value.perm_of_sortBy hsorted).mem_iff.1 (List.mem_of_getElem? hget)
      exact List.mem_filter.1 hmem

/-! ## Changes of a scene -/

/-- What one command makes of a scene whose session is one on a device. -/
inductive Scene.Change (s : Scene) (d : Device) : Scene → Prop where
  | stay {st : Standing} (suits : st.Suits d) : Change s d { s with standing := st }
  | edit {f : Device → Device} {st : Standing} (edit : d.Edit s.standing.place (f d))
      (suits : st.Suits (f d)) :
      Change s d { network := s.network.alter d.uid f, standing := st }
  /-- an access VLAN is set, and the end host at the port takes it as its tag -/
  | tag {f : Device → Device} {st : Standing} {l : Link String} {host : Device} {vlan : Int}
      (edit : d.Edit s.standing.place (f d)) (suits : st.Suits (f d))
      (mode : s.standing.mode = .interface) (link : l ∈ s.network.links.values)
      (joined : l.touches d.uid = true)
      (neighbour : s.network.devices.get? (l.other d.uid) = some host)
      (isHost : host.kind.isEndHost = true) :
      Change s d {
        network := (s.network.alter d.uid f).alter (l.other d.uid) fun h =>
          { h with displayVlan := .int vlan }
        standing := st }

variable {t : Timing} {s s' : Scene} {d : Device}

namespace Effect

/-- A setting of the device of the session that is no part of what the session shows. -/
theorem change_of_update {f : Device → Device} {n : Network} (hs : s.standing.Suits d)
    (edit : d.Edit s.standing.place (f d)) (hostname : (f d).hostname = d.hostname)
    (set : s.network.update s.standing.uid f = .ok n) : s.Change d { s with network := n } := by
  obtain rfl := (Network.update_eq_ok_iff.1 set).2
  rw [hs.uid]
  exact .edit edit ⟨hs.uid.trans edit.uid.symm, hs.hostname.trans hostname.symm, edit.fits hs.place⟩

theorem change_of_ensureInterface {name : String} {i : Interface} {n : Network}
    (hs : s.standing.Suits d) (hd : s.network.device? s.standing.uid = some d)
    (mode : s.standing.mode = .config ∨ s.standing.mode = .interface)
    (ensured : s.network.ensureInterface s.standing.uid (.text name) = .ok (i, n)) :
    s.Change d { network := n, standing := { s.standing with
      place := { mode := .interface, interface := .text name } } } := by
  obtain ⟨x, k, hx, hk, h⟩ := Network.ensureInterface_eq_ok ensured
  obtain rfl : d = x := Option.some.inj (hd.symm.trans hx)
  obtain rfl : Value.text name = k := by simpa using hk
  rcases h with ⟨there, rfl⟩ | ⟨new, -, rfl⟩
  · exact .stay ⟨hs.uid, hs.hostname, .interface (Roster.contains_iff.2 ⟨i, there⟩)⟩
  · rw [hs.uid]
    refine .edit (.addInterface mode new) ⟨hs.uid, hs.hostname, .interface ?_⟩
    exact Roster.contains_iff.2 ⟨_, Roster.get?_put.trans (if_pos rfl)⟩

/-- A change of the selected interface is an edit of the device. -/
theorem edit_of_editInterface {f : Interface → Interface} {i : Interface} {n : Network}
    (hn : d.Proper d.uid) (hs : s.standing.Suits d)
    (hd : s.network.device? s.standing.uid = some d) (mode : s.standing.mode = .interface)
    (setting : Interface.IsSetting f)
    (edited : s.network.editInterface s.standing.uid s.standing.place.interface f = .ok (i, n)) :
    d.Edit s.standing.place (d.putInterface i) ∧
      n = s.network.alter d.uid (·.putInterface i) := by
  obtain ⟨x, k, old, hx, hk, there, rfl, rfl⟩ := Network.editInterface_eq_ok edited
  obtain rfl : d = x := Option.some.inj (hd.symm.trans hx)
  obtain ⟨name, current, -⟩ := hs.place.interface_eq mode
  obtain rfl : Value.text name = k := by simpa [current] using hk
  have hput : d.putInterface { f old with key := old.key } =
      { d with interfaces := d.interfaces.put (.text name) (f old) } := by
    rw [setting.withKey old, Device.putInterface, setting.key old, hn.keyed _ _ there]
  refine ⟨?_, by rw [hs.uid]⟩
  rw [hput]
  exact .setInterface mode current there setting

theorem change_of_setVlan {vlan : Int} {n : Network} (hn : d.Proper d.uid)
    (hs : s.standing.Suits d) (hd : s.network.device? s.standing.uid = some d)
    (mode : s.standing.mode = .config)
    (set : s.network.setVlan s.standing.uid vlan .null = .ok (.ok n)) :
    s.Change d { network := n, standing := { s.standing with
      place := { mode := .vlan, vlan := .int vlan } } } := by
  obtain ⟨x, hx, supported, low, high, rfl⟩ := Network.setVlan_eq_ok set
  obtain rfl : d = x := Option.some.inj (hd.symm.trans hx)
  obtain ⟨first, hfirst⟩ := Index.contains_iff.1 hn.firstVlan
  have hwrite : Network.writeVlan vlan .null d.vlans =
      d.vlans.putNew vlan (.text (defaultVlanName vlan)) := by
    rw [Network.writeVlan, Index.putNew_of_get? hfirst]
    rfl
  have fits : Place.Fits { d with vlans := Network.writeVlan vlan .null d.vlans }
      { mode := .vlan, vlan := .int vlan } := by
    refine .vlan low high supported ?_
    rw [hwrite]
    exact Index.contains_putNew_self
  cases hget : d.vlans.get? vlan with
  | some old =>
    have same : Network.writeVlan vlan .null d.vlans = d.vlans := by
      rw [hwrite, Index.putNew_of_get? hget]
    rw [same] at fits
    rw [Network.alter_of_eq hd (f := fun d => { d with
      vlans := Network.writeVlan vlan .null d.vlans }) (by rw [same])]
    exact .stay ⟨hs.uid, hs.hostname, fits⟩
  | none =>
    have new : Network.writeVlan vlan .null d.vlans =
        d.vlans.put vlan (.text (defaultVlanName vlan)) := by
      rw [hwrite, Index.putNew, Index.contains, hget]
      rfl
    rw [hs.uid]
    refine .edit ?_ ⟨hs.uid, hs.hostname, fits⟩
    rw [new]
    exact .addVlan mode low high hget

/-- The VLAN that is named is one of the table. -/
theorem change_of_nameVlan {name : String} (hn : d.Proper d.uid) (hs : s.standing.Suits d)
    (mode : s.standing.mode = .vlan)
    (named : name ≠ "") :
    s.Change d { s with network :=
      (s.network.setVlanOf s.standing.uid s.standing.place.vlan (.text name)).2 } := by
  obtain ⟨vlan, current, there⟩ := hs.place.vlan_eq mode
  rw [current, Network.setVlanOf_int]
  split
  · next n set =>
    obtain ⟨x, hx, -, -, -, rfl⟩ := Network.setVlan_eq_ok set
    obtain ⟨first, hfirst⟩ := Index.contains_iff.1 hn.firstVlan
    obtain ⟨old, hold⟩ := Index.contains_iff.1 there
    have hwrite : Network.writeVlan vlan (.text name) d.vlans = d.vlans.put vlan (.text name) := by
      have given : (Value.text name).given = true := by simp [Value.given, named]
      rw [Network.writeVlan, Index.putNew_of_get? hfirst, Index.putNew_of_get? hold, if_pos given]
    have edit : d.Edit s.standing.place
        { d with vlans := Network.writeVlan vlan (.text name) d.vlans } := by
      rw [hwrite]
      exact .nameVlan mode current there
    rw [hs.uid]
    exact .edit edit ⟨hs.uid, hs.hostname, edit.fits hs.place⟩
  · exact .stay hs
  · exact .stay hs

end Effect

/-- Every effect of a command on a session that suits its device is a change of one of the three
sorts. -/
theorem Effect.change (hn : s.network.Proper) (found : s.network.devices.get? d.uid = some d)
    (hs : s.standing.Suits d) (h : Effect t s s') : s.Change d s' := by
  have proper : d.Proper d.uid := hn _ _ found
  have hd : s.network.device? s.standing.uid = some d := by
    rw [Network.device?, hs.uid, proper.trimmed, found]
  cases h with
  | look => exact .stay hs
  | reload => exact .stay ⟨hs.uid, hs.hostname, hs.place⟩
  | enable mode =>
    refine .stay ⟨hs.uid, hs.hostname, ?_⟩
    dsimp only
    rw [hs.place.user_eq mode]
    exact .privileged
  | enter leads =>
    refine .stay ⟨hs.uid, hs.hostname, ?_⟩
    exact leads.fits d
  | close mode => exact .stay ⟨hs.uid, hs.hostname, hs.place⟩
  | hostname mode named set =>
    obtain rfl := (Network.update_eq_ok_iff.1 set).2
    have edit := Device.Edit.name (d := d) mode named
    rw [hs.uid]
    exact .edit edit ⟨hs.uid, rfl, edit.fits hs.place⟩
  | routing mode set => exact change_of_update hs (.routing _ mode) rfl set
  | domainName mode set => exact change_of_update hs (.domainName _ mode) rfl set
  | selectInterface mode ensured => exact change_of_ensureInterface hs hd mode ensured
  | selectVlan mode set => exact change_of_setVlan proper hs hd mode set
  | deleteVlan mode removed =>
    obtain ⟨x, _, _, other, rfl⟩ := Network.removeVlan_eq_ok removed
    have edit := Device.Edit.removeVlan (d := d) mode other
    rw [hs.uid]
    exact .edit edit ⟨hs.uid, hs.hostname, edit.fits hs.place⟩
  | selectLine name mode => exact .stay ⟨hs.uid, hs.hostname, .line name⟩
  | editInterface mode setting edited =>
    obtain ⟨edit, rfl⟩ := edit_of_editInterface proper hs hd mode setting edited
    exact .edit edit ⟨hs.uid, hs.hostname, edit.fits hs.place⟩
  | tagNeighbour mode low high edited port neighbour host tagged =>
    obtain ⟨edit, rfl⟩ := edit_of_editInterface proper hs hd mode (.accessVlan low high) edited
    obtain ⟨link, joined⟩ := Port.mem_of_linkFor? port
    rw [hs.uid] at neighbour joined
    -- the end host is looked up after the port was set, and may be the device itself
    have huid := (hn.editInterface edited _ _ neighbour).uid
    rw [Network.get?_alter, Option.map_eq_some_iff] at neighbour
    obtain ⟨before, hbefore, hsame⟩ := neighbour
    obtain rfl := (Network.update_eq_ok_iff.1 tagged).2
    rw [huid]
    refine .tag edit ⟨hs.uid, hs.hostname, edit.fits hs.place⟩ mode link joined hbefore ?_
    rw [← hsame] at host
    split at host
    · exact host
    · exact host
  | nameVlan mode named _ => exact change_of_nameVlan proper hs mode named
  | editLine mode setting edited =>
    obtain ⟨x, name, hx, hname, rfl, rfl⟩ := Network.editLine_eq_ok edited
    obtain rfl : d = x := Option.some.inj (hd.symm.trans hx)
    obtain ⟨current, hcurrent⟩ := hs.place.line_eq mode
    obtain rfl : current = name := by
      rw [hcurrent, LineName.ofValue?_name] at hname
      exact Option.some.inj hname
    have edit := Device.Edit.setLine (d := d) mode hcurrent setting
    rw [hs.uid]
    exact .edit edit ⟨hs.uid, hs.hostname, edit.fits hs.place⟩

/-! ## What a change keeps -/

namespace Scene.Change

theorem uid (h : s.Change d s') (hs : s.standing.Suits d) : s'.standing.uid = s.standing.uid := by
  cases h with
  | stay suits => exact suits.uid.trans hs.uid.symm
  | edit edit suits => exact (suits.uid.trans edit.uid).trans hs.uid.symm
  | tag edit suits => exact (suits.uid.trans edit.uid).trans hs.uid.symm

theorem proper (h : s.Change d s') (hn : s.network.Proper)
    (found : s.network.devices.get? d.uid = some d) : s'.network.Proper := by
  have edited : ∀ f : Device → Device, d.Edit s.standing.place (f d) →
      (s.network.alter d.uid f).Proper :=
    fun f edit => hn.alter_of_found found (edit.proper (hn _ _ found))
  cases h with
  | stay _ => exact hn
  | edit edit _ => exact edited _ edit
  | tag edit _ _ _ _ _ _ =>
    exact (edited _ edit).alter fun x hx => ⟨hx.trimmed, hx.named, hx.uid, hx.firstVlan, hx.keyed⟩

/-- The session still suits its device. -/
theorem suits (h : s.Change d s') (hn : s.network.Proper)
    (found : s.network.devices.get? d.uid = some d) :
    ∃ d', s'.network.devices.get? s'.standing.uid = some d' ∧ s'.standing.Suits d' := by
  have edited : ∀ f : Device → Device,
      (s.network.alter d.uid f).devices.get? d.uid = some (f d) := by
    intro f
    rw [Network.get?_alter, found, Option.map_some, if_pos (hn _ _ found).trimmed.symm]
  cases h with
  | stay suits => exact ⟨d, by rw [suits.uid, found], suits⟩
  | edit edit suits => exact ⟨_, by rw [suits.uid, edit.uid]; exact edited _, suits⟩
  | @tag f st l host vlan edit suits _ _ _ _ _ =>
    refine ⟨if d.uid = Text.trim (l.other d.uid) then { f d with displayVlan := .int vlan }
      else f d, ?_, ?_⟩
    · rw [suits.uid, edit.uid, Network.get?_alter, edited, Option.map_some]
    · split
      · exact suits.displayVlan _
      · exact suits

/-- What suits another device suits it afterwards. -/
theorem others (h : s.Change d s') (hn : s.network.Proper)
    (found : s.network.devices.get? d.uid = some d) {k : String} {x : Device} (hk : k ≠ d.uid)
    (hx : s.network.devices.get? k = some x) :
    ∃ x', s'.network.devices.get? k = some x' ∧ ∀ st : Standing, st.Suits x → st.Suits x' := by
  have edited : ∀ f : Device → Device, (s.network.alter d.uid f).devices.get? k = some x := by
    intro f
    rw [Network.get?_alter, hx, Option.map_some, if_neg]
    rwa [(hn _ _ found).trimmed]
  cases h with
  | stay _ => exact ⟨x, hx, fun _ h => h⟩
  | edit _ _ => exact ⟨x, edited _, fun _ h => h⟩
  | @tag f st l host vlan _ _ _ _ _ _ _ =>
    refine ⟨if k = Text.trim (l.other d.uid) then { x with displayVlan := .int vlan } else x,
      ?_, ?_⟩
    · rw [Network.get?_alter, edited, Option.map_some]
    · intro st hst
      split
      · exact hst.displayVlan _
      · exact hst

end Scene.Change

end NetLab
