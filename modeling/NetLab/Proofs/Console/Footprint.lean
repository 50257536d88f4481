import NetLab.Proofs.Console.Meaning
import NetLab.Proofs.Network.Footprint

set_option autoImplicit false

/-!
# What a line reads and writes

On two networks that look the same from the device of its session, a line comes to the same: it is
refused for the same reason, ends in the same fault, or is carried out and prints the same, and it
makes the same write on both.  Two actions reach beyond the device.  `ping` reads the labels of
other devices and prints them, and setting an access VLAN may tag the end host at the port.  There
is one lemma for each way in which commands are carried out, one for all actions, and one for lines.
-/

namespace NetLab

/-- One write on the device leads from each of two networks to the other two.  It may tag a device
only if that is allowed. -/
def Network.Wrote (uid : String) (tags : Prop) (n m n' m' : Network) : Prop :=
  ∃ w : Network.Write, Device.Configures w.edit ∧ (w.tag = none ∨ tags) ∧
    n' = w.on uid n ∧ m' = w.on uid m

theorem Network.Edited.wrote {uid : String} {tags : Prop} {n m n' m' : Network}
    (h : Network.Edited uid n m n' m') : Network.Wrote uid tags n m n' m' := by
  obtain ⟨f, hf, hn, hm⟩ := h
  exact ⟨{ edit := f }, hf, Or.inl rfl, hn, hm⟩

/-- Networks that look the same from a device still do once it was changed. -/
theorem Network.Edited.sameFrom {uid : String} {n m n' m' : Network}
    (h : Network.Edited uid n m n' m') (same : n.SameFrom uid m) : n'.SameFrom uid m' := by
  obtain ⟨f, hf, rfl, rfl⟩ := h
  exact same.alter hf

/-- To change the device and then tag another one is one write. -/
theorem Network.Edited.wrote_tagged {uid : String} {tags : Prop} {n m n' m' : Network}
    (h : Network.Edited uid n m n' m') (may : tags) (host : String) (v : Value) :
    Network.Wrote uid tags n m (n'.alter host (·.tagged v)) (m'.alter host (·.tagged v)) := by
  obtain ⟨f, hf, rfl, rfl⟩ := h
  exact ⟨{ edit := f, tag := some (host, v) }, hf, Or.inr may, rfl, rfl⟩

/-- From a console, and from the same one over another network, commands came to consoles that have
the same session and sent the same notices, by one write on both networks. -/
structure Console.Leads (c : Console) (m : Network) (tags : Prop) (x x' : Console) : Prop where
  session : x'.session = x.session
  notices : x'.notices = x.notices
  wrote : Network.Wrote c.session.uid tags c.network m x.network x'.network

/-- The commands came to the same.  What is printed may be excepted. -/
inductive Outcome.Beside (c : Console) (m : Network) (excepted tags : Prop) :
    Outcome → Outcome → Prop where
  | done {output output' : String} {x x' : Console} (printed : ¬ excepted → output' = output)
      (next : c.Leads m tags x x') : Beside c m excepted tags (.done output x) (.done output' x')
  | refused (r : Refusal) {x x' : Console} (next : c.Leads m tags x x') :
      Beside c m excepted tags (.refused r x) (.refused r x')
  | failed (f : Fault) {x x' : Console} (next : c.Leads m tags x x') :
      Beside c m excepted tags (.failed f x) (.failed f x')

namespace Console

variable {c x x' : Console} {m n' m' : Network} {t : Timing} {excepted tags : Prop}

/-! ## Consoles -/

theorem leads_refl (c : Console) (m : Network) : c.Leads m tags c (c.withNetwork m) :=
  ⟨rfl, rfl, (Network.edited_refl c.session.uid c.network m).wrote⟩

/-- The networks were changed, and nothing else. -/
theorem leads_of_edited (h : Network.Edited c.session.uid c.network m n' m') :
    c.Leads m tags (c.withNetwork n') ((c.withNetwork m).withNetwork m') :=
  ⟨rfl, rfl, h.wrote⟩

namespace Leads

theorem onSession (h : c.Leads m tags x x') (f : Session → Session) :
    c.Leads m tags (x.onSession f) (x'.onSession f) :=
  ⟨congrArg f h.session, h.notices, h.wrote⟩

theorem send (h : c.Leads m tags x x') (r : Report) : c.Leads m tags (x.send r) (x'.send r) := by
  refine ⟨h.session, ?_, h.wrote⟩
  rw [Console.send, Console.send, h.notices, h.session]

/-- One and the same text is printed. -/
theorem print (h : c.Leads m tags x x') (output : String) :
    (Outcome.done output x).Beside c m excepted tags (.done output x') := .done (fun _ => rfl) h

theorem quiet (h : c.Leads m tags x x') : x.quiet.Beside c m excepted tags x'.quiet := h.print ""

end Leads

/-! ## Ways to carry out a command -/

/-- Operations that end alike go on alike. -/
theorem attempt_beside {α β : Type} {R : α → β → Prop} {a : Except Fault α} {b : Except Fault β}
    {next : α → Outcome} {next' : β → Outcome} (hx : c.Leads m tags x x') (h : Matching R a b)
    (hnext : ∀ a b, R a b → (next a).Beside c m excepted tags (next' b)) :
    (x.attempt a next).Beside c m excepted tags (x'.attempt b next') := by
  cases h with
  | ok related => exact hnext _ _ related
  | error f => exact .failed f hx

variable (same : c.network.SameFrom c.session.uid m)

include same

/-- What is printed depends on the labels of other devices. -/
theorem ping_beside (free : excepted) (ip : String) :
    (c.ping ip).Beside c m excepted tags ((c.withNetwork m).ping ip) := by
  have start : c.Leads m tags c (c.withNetwork m) := leads_refl c m
  have found := same.deviceByAddress (.text ip)
  have network : (c.withNetwork m).network = m := rfl
  rw [ping, ping, network]
  generalize c.network.deviceByAddress (.text ip) = a at found
  generalize m.deviceByAddress (.text ip) = b at found
  cases found with
  | none => exact start.print _
  | @some target target' identity =>
    have uid : target'.uid = target.uid := congrArg Device.Identity.uid identity
    dsimp only
    rw [uid]
    refine attempt_beside start (same.trace _ _) fun v v' h => ?_
    have success : v'.success = v.success := (congrArg Route.Verdict.success h :)
    have reason : v'.reason = v.reason := (congrArg Route.Verdict.reason h :)
    have sent := start.send (.ping target.uid v.success v.reason)
    rw [success, reason]
    split
    · exact .done (fun no => absurd free no) sent
    · exact .done (fun no => absurd free no) sent

theorem showDevice_beside {view view' : Device → Except Fault (List String)}
    (hview : ∀ (d : Device) (v : Value), view' (d.tagged v) = view d) :
    (c.showDevice view).Beside c m excepted tags ((c.withNetwork m).showDevice view') := by
  refine attempt_beside (leads_refl c m) same.device fun d d' hd => ?_
  obtain ⟨v, rfl⟩ := hd
  refine attempt_beside (leads_refl c m) (Matching.of_eq (hview d v).symm) fun lines _ h => ?_
  subst h
  exact (leads_refl c m).print _

/-- The device is changed and nothing is printed. -/
theorem configure_beside {f : Device → Device} (hf : Device.Configures f) :
    (c.configure (c.network.update c.session.uid f)).Beside c m excepted tags
      ((c.withNetwork m).configure (m.update c.session.uid f)) :=
  attempt_beside (leads_refl c m) (same.update hf) fun _ _ h => (leads_of_edited h).quiet

theorem nameDevice_beside (name : String) :
    (c.nameDevice name).Beside c m excepted tags ((c.withNetwork m).nameDevice name) :=
  attempt_beside (leads_refl c m) (same.update ⟨fun _ => rfl, fun _ _ => rfl⟩) fun _ _ h =>
    ((leads_of_edited h).onSession _).quiet

theorem selectInterface_beside (words : List String) :
    (c.selectInterface words).Beside c m excepted tags
      ((c.withNetwork m).selectInterface words) :=
  attempt_beside (leads_refl c m) (same.ensureInterface _) fun _ _ h =>
    ((leads_of_edited h.2).onSession _).quiet

omit same in
theorem changeVlans_beside {a b : Except Fault (Except Rejection Network)}
    {next : Console → Outcome}
    (h : Matching (Matching (Network.Edited c.session.uid c.network m)) a b)
    (hnext : ∀ x x' : Console, c.Leads m tags x x' →
      (next x).Beside c m excepted tags (next x')) :
    (c.changeVlans a next).Beside c m excepted tags ((c.withNetwork m).changeVlans b next) := by
  refine attempt_beside (leads_refl c m) h fun r r' hr => ?_
  cases hr with
  | ok edited => exact hnext _ _ (leads_of_edited edited)
  | error r => exact .refused _ (leads_refl c m)

theorem selectVlan_beside (word : String) :
    (c.selectVlan word).Beside c m excepted tags ((c.withNetwork m).selectVlan word) := by
  refine attempt_beside (leads_refl c m) same.device fun d d' hd => ?_
  obtain ⟨v, rfl⟩ := hd
  have supports : (d.tagged v).supportsVlans = d.supportsVlans := rfl
  rw [supports]
  split
  · exact .refused _ (leads_refl c m)
  · split
    · exact .refused _ (leads_refl c m)
    · exact changeVlans_beside (same.setVlan _ _) fun _ _ next => (next.onSession _).quiet

theorem deleteVlan_beside (word : String) :
    (c.deleteVlan word).Beside c m excepted tags ((c.withNetwork m).deleteVlan word) := by
  rw [deleteVlan, deleteVlan]
  split
  · exact .refused _ (leads_refl c m)
  · exact changeVlans_beside (same.removeVlan _) fun _ _ next => next.quiet

omit same in
theorem selectLine_beside (word : String) :
    (c.selectLine word).Beside c m excepted tags ((c.withNetwork m).selectLine word) := by
  rw [selectLine, selectLine]
  split
  · exact .refused _ (leads_refl c m)
  · exact ((leads_refl c m).onSession _).quiet

/-! ### Interfaces -/

theorem editSelected_beside {f : Interface → Interface}
    {next next' : Interface → Console → Outcome}
    (hnext : ∀ i n' m', Network.Edited c.session.uid c.network m n' m' →
      (next i (c.withNetwork n')).Beside c m excepted tags
        (next' i ((c.withNetwork m).withNetwork m'))) :
    (c.editSelected f next).Beside c m excepted tags
      ((c.withNetwork m).editSelected f next') := by
  rw [editSelected, editSelected]
  have place : (c.withNetwork m).session = c.session := rfl
  rw [place]
  split
  · exact .failed _ (leads_refl c m)
  · refine attempt_beside (leads_refl c m) (same.editInterface _ _) fun p p' hp => ?_
    rw [hp.1]
    exact hnext _ _ _ hp.2

theorem setOnSelected_beside (f : Interface → Interface) :
    (c.setOnSelected f).Beside c m excepted tags ((c.withNetwork m).setOnSelected f) :=
  editSelected_beside same fun _ _ _ h => (leads_of_edited h).quiet

theorem setShutdown_beside (down : Bool) :
    (c.setShutdown down).Beside c m excepted tags ((c.withNetwork m).setShutdown down) :=
  editSelected_beside same fun _ _ _ h => (leads_of_edited h).print _

theorem setPortMode_beside (word : String) :
    (c.setPortMode word).Beside c m excepted tags ((c.withNetwork m).setPortMode word) := by
  rw [setPortMode, setPortMode]
  split
  · exact .refused _ (leads_refl c m)
  · exact setOnSelected_beside same _

/-- After its device was changed, the end host at the port may be tagged. -/
theorem tagNeighbour_beside (may : tags) (edited : Network.Edited c.session.uid c.network m n' m')
    (vlan : Int) : ((c.withNetwork n').tagNeighbour vlan).Beside c m excepted tags
      (((c.withNetwork m).withNetwork m').tagNeighbour vlan) := by
  have start : c.Leads m tags (c.withNetwork n') ((c.withNetwork m).withNetwork m') :=
    leads_of_edited edited
  have after : n'.SameFrom c.session.uid m' := edited.sameFrom same
  have links : ((c.withNetwork m).withNetwork m').network.links.values =
      (c.withNetwork n').network.links.values := congrArg Roster.values after.alike.links
  rw [tagNeighbour, tagNeighbour, links]
  refine attempt_beside start (Matching.of_eq rfl) fun found _ h => ?_
  subst h
  cases found with
  | none => exact start.quiet
  | some link =>
    have there := after.found (link.other c.session.uid)
    have network : ((c.withNetwork m).withNetwork m').network = m' := rfl
    have network' : (c.withNetwork n').network = n' := rfl
    have place : ((c.withNetwork m).withNetwork m').session = (c.withNetwork n').session := rfl
    have uid : (c.withNetwork n').session.uid = c.session.uid := rfl
    dsimp only
    rw [place, uid, network, network']
    generalize n'.devices.get? (link.other c.session.uid) = a at there
    generalize m'.devices.get? (link.other c.session.uid) = b at there
    cases there with
    | none => exact start.quiet
    | @some d d' identity =>
      have kind : d'.kind = d.kind := congrArg Device.Identity.kind identity
      have host : d'.uid = d.uid := congrArg Device.Identity.uid identity
      dsimp only
      rw [kind, host]
      split
      · refine attempt_beside start (after.setDisplayVlan _ _) fun n'' m'' h => ?_
        have wrote : Network.Wrote c.session.uid tags c.network m n'' m'' := by
          rw [h.1, h.2]
          exact edited.wrote_tagged may d.uid (.int vlan)
        have next : c.Leads m tags ((c.withNetwork n').withNetwork n'')
          (((c.withNetwork m).withNetwork m').withNetwork m'') := ⟨rfl, rfl, wrote⟩
        exact next.print _
      · exact start.quiet

theorem setAccessVlan_beside (may : tags) (word : String) :
    (c.setAccessVlan word).Beside c m excepted tags ((c.withNetwork m).setAccessVlan word) := by
  rw [setAccessVlan, setAccessVlan]
  split
  · exact .refused _ (leads_refl c m)
  · exact editSelected_beside same fun _ _ _ h => tagNeighbour_beside same may h _

theorem setNativeVlan_beside (word : String) :
    (c.setNativeVlan word).Beside c m excepted tags ((c.withNetwork m).setNativeVlan word) := by
  rw [setNativeVlan, setNativeVlan]
  split
  · exact .refused _ (leads_refl c m)
  · exact setOnSelected_beside same _

theorem setInterfaceAddress_beside (args : List String) :
    (c.setInterfaceAddress args).Beside c m excepted tags
      ((c.withNetwork m).setInterfaceAddress args) := by
  unfold setInterfaceAddress
  split
  · exact setOnSelected_beside same _
  · exact .refused _ (leads_refl c m)

/-! ### VLANs, lines and modes -/

theorem nameVlan_beside (name : String) :
    (c.nameVlan name).Beside c m excepted tags ((c.withNetwork m).nameVlan name) := by
  rw [nameVlan, nameVlan]
  have place : (c.withNetwork m).session = c.session := rfl
  have network : (c.withNetwork m).network = m := rfl
  rw [place, network]
  split
  · exact .failed _ (leads_refl c m)
  · obtain ⟨result, edited⟩ := same.setVlanOf c.session.place.vlan (.text name)
    generalize c.network.setVlanOf c.session.uid c.session.place.vlan (.text name) = a
      at result edited
    generalize m.setVlanOf c.session.uid c.session.place.vlan (.text name) = b at result edited
    obtain ⟨r, n'⟩ := a
    obtain ⟨r', m'⟩ := b
    obtain rfl : r' = r := result
    cases r' with
    | error f => exact .failed f (leads_of_edited edited)
    | ok rejection =>
      cases rejection with
      | none => exact (leads_of_edited edited).quiet
      | some r => exact .refused _ (leads_of_edited edited)

theorem editSelectedLine_beside (f : Line → Line) :
    (c.editSelectedLine f).Beside c m excepted tags ((c.withNetwork m).editSelectedLine f) := by
  rw [editSelectedLine, editSelectedLine]
  have place : (c.withNetwork m).session = c.session := rfl
  rw [place]
  split
  · exact .failed _ (leads_refl c m)
  · exact attempt_beside (leads_refl c m) (same.editLine _ _) fun _ _ h =>
      (leads_of_edited h.2).quiet

omit same in
theorem leave_beside : c.leave.Beside c m excepted tags (c.withNetwork m).leave := by
  rw [leave, leave]
  have place : (c.withNetwork m).session = c.session := rfl
  rw [place]
  have start : c.Leads m tags c (c.withNetwork m) := leads_refl c m
  split
  · exact ((start.onSession _).send _).print _
  · exact (start.onSession _).quiet
  · exact (start.onSession _).quiet
  · exact (start.onSession _).quiet

omit same in
theorem finish_beside : c.finish.Beside c m excepted tags (c.withNetwork m).finish := by
  rw [finish, finish]
  have place : (c.withNetwork m).session = c.session := rfl
  rw [place]
  split
  · exact .refused _ (leads_refl c m)
  · exact ((leads_refl c m).onSession _).quiet

omit same in
theorem reload_beside : (c.reload t).Beside c m excepted tags ((c.withNetwork m).reload t) :=
  (((leads_refl c m).onSession _).send _).quiet

end Console

open Console in
/-- An action comes to the same on networks that look the same from the device of the session. -/
theorem Action.run_beside {c : Console} {m : Network} (same : c.network.SameFrom c.session.uid m)
    (t : Timing) (args : List String) (a : Action) :
    (a.run t args c).Beside c m (a = .ping) (a = .accessVlan) (a.run t args (c.withNetwork m)) := by
  have start : ∀ {tags : Prop}, c.Leads m tags c (c.withNetwork m) := leads_refl c m
  cases a with
  | enable => exact (start.onSession _).quiet
  | disable => exact (start.onSession _).quiet
  | configure => exact (start.onSession _).print _
  | ping => exact ping_beside same rfl _
  | showVersion => exact start.print _
  | showRunningConfig => exact showDevice_beside same fun _ _ => rfl
  | showVlan => exact showDevice_beside same fun _ _ => rfl
  | showInterfaces =>
    refine showDevice_beside same fun d v => ?_
    have links : (c.withNetwork m).network.links = c.network.links := same.alike.links
    rw [links]
    rfl
  | showHistory => exact start.print _
  | reload => exact reload_beside
  | vlanOutsideConfig => exact .refused _ start
  | hostname => exact nameDevice_beside same _
  | interface => exact selectInterface_beside same _
  | vlan => exact selectVlan_beside same _
  | noVlan => exact deleteVlan_beside same _
  | routing enabled => exact configure_beside same ⟨fun _ => rfl, fun _ _ => rfl⟩
  | domainName => exact configure_beside same ⟨fun _ => rfl, fun _ _ => rfl⟩
  | line => exact selectLine_beside _
  | shutdown down => exact setShutdown_beside same _
  | portMode => exact setPortMode_beside same _
  | accessVlan => exact setAccessVlan_beside same rfl _
  | trunkAllowed => exact setOnSelected_beside same _
  | trunkNative => exact setNativeVlan_beside same _
  | address => exact setInterfaceAddress_beside same _
  | noAddress => exact setOnSelected_beside same _
  | description => exact setOnSelected_beside same _
  | noDescription => exact setOnSelected_beside same _
  | vlanName => exact nameVlan_beside same _
  | password => exact editSelectedLine_beside same _
  | noPassword => exact editSelectedLine_beside same _
  | login required => exact editSelectedLine_beside same _
  | exit => exact leave_beside
  | finish => exact finish_beside
  | help => exact start.print _
  | exec => exact .refused _ start
  | clear => exact (start.onSession _).quiet

/-- What comes to the same as in privileged mode comes to the same. -/
theorem Outcome.Beside.of_privileged {c : Console} {m : Network} {excepted tags : Prop}
    {o o' : Outcome} (h : o.Beside c.privileged m excepted tags o') :
    o.Beside c m excepted tags o' := by
  cases h with
  | done printed next => exact .done printed ⟨next.session, next.notices, next.wrote⟩
  | refused r next => exact .refused r ⟨next.session, next.notices, next.wrote⟩
  | failed f next => exact .failed f ⟨next.session, next.notices, next.wrote⟩

/-- Consoles that go back to one place lead on as they did. -/
theorem Outcome.Beside.backTo {c : Console} {m : Network} {excepted tags : Prop} {o o' : Outcome}
    (place : Place) (h : o.Beside c m excepted tags o') :
    (o.backTo place).Beside c m excepted tags (o'.backTo place) := by
  cases h with
  | done printed next => exact .done printed (next.onSession _)
  | refused r next => exact .refused r (next.onSession _)
  | failed f next => exact .failed f (next.onSession _)

/-- What a line means, too, comes to the same on networks that look the same from the device. -/
theorem Console.carryOut_beside {c : Console} {m : Network}
    (same : c.network.SameFrom c.session.uid m) (t : Timing) (meaning : Command.Meaning) :
    (c.carryOut t meaning).Beside c m (meaning.action? = some .ping)
      (meaning.action? = some .accessVlan) ((c.withNetwork m).carryOut t meaning) := by
  cases meaning with
  | refused r => exact .refused r (leads_refl c m)
  | plain a args =>
    simp only [Command.Meaning.action?, Option.some.injEq]
    exact a.run_beside same t args
  | privileged a args =>
    simp only [Command.Meaning.action?, Option.some.injEq]
    have inner : (a.run t args c.privileged).Beside c m (a = .ping) (a = .accessVlan)
        (a.run t args (c.privileged.withNetwork m)) :=
      (a.run_beside (c := c.privileged) same t args).of_privileged
    exact inner.backTo c.session.place

end NetLab
