import NetLab.Proofs.Console.Change
import NetLab.Proofs.Engine.Lifetime

set_option autoImplicit false

/-!
# Sessions and devices stay coherent

Every open session suits its device: it shows the host name of the device, and what its mode is
about is something that the device has.  A line changes one device and its own session, so the
invariant needs a second half that spans all sessions: no two open sessions stand on one device
(`Engine.Orderly.alone`).
-/

namespace NetLab

/-! ## The invariant -/

/-- The open sessions suit their devices. -/
structure Coherent (n : Network) (l : List Standing) : Prop where
  proper : n.Proper
  suits : ∀ {i : Nat} {a : Standing}, l[i]? = some a → a.closed = false →
    ∃ d, n.devices.get? a.uid = some d ∧ a.Suits d

namespace Coherent

variable {n m : Network} {l : List Standing} {i : Nat} {a b : Standing}

/-- One session may stand elsewhere, and the network may change, as long as the session suits its
device and every other device still suits what it suited. -/
theorem set (h : Coherent n l) (hi : l[i]? = some a) (hm : m.Proper)
    (own : b.closed = false → ∃ d, m.devices.get? b.uid = some d ∧ b.Suits d)
    (others : ∀ j x d, j ≠ i → l[j]? = some x → x.closed = false →
      n.devices.get? x.uid = some d → ∃ d', m.devices.get? x.uid = some d' ∧
        ∀ st : Standing, st.Suits d → st.Suits d') :
    Coherent m (l.set i b) where
  proper := hm
  suits := by
    intro j x hx hopen
    by_cases hj : i = j
    · subst hj
      rw [List.getElem?_set_self (List.getElem?_eq_some_iff.1 hi).1] at hx
      obtain rfl := Option.some.inj hx
      exact own hopen
    · rw [List.getElem?_set_ne hj] at hx
      obtain ⟨d, hd, hsuits⟩ := h.suits hx hopen
      obtain ⟨d', hd', hkeeps⟩ := others j x d (Ne.symm hj) hx hopen hd
      exact ⟨d', hd', hkeeps x hsuits⟩

/-- A session may stand elsewhere on a device that it suits. -/
theorem set_standing (h : Coherent n l) (hi : l[i]? = some a) (uid : b.uid = a.uid)
    (stays : b.closed = false → a.closed = false)
    (own : ∀ d, b.closed = false → a.Suits d → b.Suits d) : Coherent n (l.set i b) := by
  refine h.set hi h.proper (fun hopen => ?_) fun _ _ d _ _ _ hd => ⟨d, hd, fun _ hst => hst⟩
  obtain ⟨d, hd, hsuits⟩ := h.suits hi (stays hopen)
  exact ⟨d, by rw [uid, hd], own d hopen hsuits⟩

/-- Finishing a boot that is due returns the session to user mode, which suits every device. -/
theorem poll (h : Coherent n l) (hi : l[i]? = some a) (clock : Double) :
    Coherent n (l.set i (Engine.pollStanding clock a)) := by
  rw [Engine.pollStanding]
  split
  · exact h.set_standing hi rfl id fun d _ hs => ⟨hs.uid, hs.hostname, .user⟩
  · exact h.set_standing hi rfl id fun d _ hs => hs

theorem close (h : Coherent n l) (hi : l[i]? = some a) : Coherent n (l.set i a.close) :=
  h.set_standing hi rfl (fun hc => by cases hc) fun _ hc _ => by cases hc

/-- An effect of a command in an open session changes one device, and no other open session stands
on it. -/
theorem effect {t : Timing} {s' : Scene} (h : Coherent n l) (hi : l[i]? = some a)
    (hopen : a.closed = false)
    (alone : ∀ j x, l[j]? = some x → x.closed = false → x.uid = a.uid → j = i)
    (heff : Effect t ⟨n, a⟩ s') : Coherent s'.network (l.set i s'.standing) := by
  obtain ⟨d, hd, hsuits⟩ := h.suits hi hopen
  have found : n.devices.get? d.uid = some d := by rw [← hsuits.uid, hd]
  have change : Scene.Change ⟨n, a⟩ d s' := heff.change h.proper found hsuits
  refine h.set hi (change.proper h.proper found) (fun _ => change.suits h.proper found)
    fun j x y hj hx hxo hy => change.others h.proper found ?_ hy
  rw [← hsuits.uid]
  exact fun same => hj (alone j x hx hxo same)

/-- A session that opens on a device suits it. -/
theorem opens {d : Device} {kind : String} (h : Coherent n l)
    (hd : n.devices.get? d.uid = some d) :
    Coherent n (l ++ [(Session.start d.uid kind d.hostname).standing]) where
  proper := h.proper
  suits := by
    intro j x hx hopen
    rcases getElem?_concat_eq_some hx with hx | ⟨_, rfl⟩
    · exact h.suits hx hopen
    · exact ⟨d, hd, rfl, rfl, .user⟩

end Coherent

/-! ## Steps and runs -/

namespace Engine

variable {e : Engine} {id : Nat}

/-- The engine's sessions are coherent with its network, and orderly. -/
structure IsCoherent (e : Engine) : Prop extends Coherent e.network e.standings where
  orderly : e.Orderly

theorem coherent_poll (h : Coherent e.network e.standings) :
    Coherent (e.poll id).network (e.poll id).standings := by
  cases hs : e.session? id with
  | none => rwa [poll_of_none hs]
  | some s =>
    rw [network_poll, standings_poll hs]
    exact h.poll (getElem?_standings_of_session? hs) e.clock

theorem coherent_close (h : Coherent e.network e.standings) :
    Coherent (e.close id).network (e.close id).standings := by
  obtain hall | ⟨s, hs, hopen⟩ := closed_or_open e id
  · rwa [close_of_closed hall]
  · obtain ⟨hn, hst⟩ := close_of_open hs hopen
    rw [hn, hst]
    exact h.close (getElem?_standings_of_session? hs)

theorem coherent_openSession {uid : String} {e' : Engine} (h : Coherent e.network e.standings)
    (hok : e.openSession uid = .ok (id, e')) : Coherent e'.network e'.standings := by
  obtain ⟨d, hd, hn, hst⟩ := openSession_eq_ok hok
  have before : Coherent e.network ((e.sessionFor? d.uid).elim e e.close).standings := by
    refine cleared_of_close (P := fun x => Coherent e.network x.standings) h (fun k => ?_) d.uid
    have closed : Coherent (e.close k).network (e.close k).standings := coherent_close h
    rwa [network_close] at closed
  have found : e.network.devices.get? d.uid = some d := by
    rw [(h.proper _ _ hd).uid]
    exact hd
  rw [hn, hst]
  exact before.opens found

/-- A line in an open session starts from a coherent scene. -/
theorem coherent_polled (h : e.IsCoherent) {s : Session} (hs : e.session? id = some s) :
    Coherent e.network (e.standings.set id (pollStanding e.clock s.standing)) :=
  h.poll (getElem?_standings_of_session? hs) e.clock

/-- No other open session stands on the device of an open one. -/
theorem alone_polled (h : e.Orderly) {s : Session} (hs : e.session? id = some s)
    (hopen : s.closed = false) (j : Nat) (x : Standing)
    (hx : (e.standings.set id (pollStanding e.clock s.standing))[j]? = some x)
    (hxo : x.closed = false) (same : x.uid = s.uid) : j = id := by
  by_contra hj
  rw [List.getElem?_set_ne (Ne.symm hj), getElem?_standings] at hx
  obtain ⟨y, hy, rfl⟩ := Option.map_eq_some_iff.1 hx
  exact hj (h.alone hy hs hxo hopen same)

/-- A session that takes a line suits its device. -/
theorem suits_polled (h : e.IsCoherent) {s : Session} (hs : e.session? id = some s)
    (hopen : s.closed = false) : ∃ d, e.network.devices.get? d.uid = some d ∧
      (pollStanding e.clock s.standing).Suits d := by
  obtain ⟨d, found, hsuits⟩ :=
    (coherent_polled h hs).suits (getElem?_polled hs) (by simpa using hopen)
  exact ⟨d, by rw [← hsuits.uid, found], hsuits⟩

theorem uid_pollStanding (clock : Double) (s : Standing) : (pollStanding clock s).uid = s.uid := by
  rw [pollStanding]
  split <;> rfl

theorem coherent_execute {line : String} (h : e.IsCoherent) :
    Coherent (e.execute id line).2.network (e.execute id line).2.standings := by
  obtain hall | ⟨s, hs, hopen⟩ := closed_or_open e id
  · rw [execute_of_closed hall]
    exact h.toCoherent
  obtain ⟨s', result, shown⟩ := execute_result line hs hopen
  have heffect := (coherent_polled h hs).effect (getElem?_polled hs) (by simpa using hopen)
    (fun j x hx hxo same => alone_polled h.orderly hs hopen j x hx hxo
      (same.trans (uid_pollStanding _ _))) result.effect
  rw [List.set_set] at heffect
  rwa [shown.network, shown.standings]

/-- A line in an open session changes the network at the device on which the session stands. -/
theorem execute_change (h : e.IsCoherent) {s : Session} (hs : e.session? id = some s)
    (hopen : s.closed = false) (line : String) :
    ∃ d s', e.network.devices.get? d.uid = some d ∧ (pollStanding e.clock s.standing).Suits d ∧
      Scene.Change ⟨e.network, pollStanding e.clock s.standing⟩ d s' ∧
      (e.execute id line).2.network = s'.network := by
  obtain ⟨s', result, shown⟩ := execute_result line hs hopen
  obtain ⟨d, found, hsuits⟩ := suits_polled h hs hopen
  exact ⟨d, s', found, hsuits, result.effect.change h.proper found hsuits, shown.network⟩

/-- Whatever happens to an engine keeps its sessions coherent. -/
theorem isCoherent_act (h : e.IsCoherent) (a : Act) : (e.act a).IsCoherent := by
  refine ⟨?_, orderly_turn h.orderly (.act a)⟩
  cases a with
  | opens uid =>
    rw [act]
    split
    · next p hp => exact coherent_openSession h.toCoherent hp
    · exact h.toCoherent
  | line id text => exact coherent_execute h
  | poll id => exact coherent_poll h.toCoherent
  | close id => exact coherent_close h.toCoherent
  | drain id =>
    rw [act, network_drain, standings_drain]
    exact h.toCoherent
  | answer k a =>
    rw [act, network_answer, standings_answer]
    exact h.toCoherent
  | pass seconds => exact h.toCoherent

theorem isCoherent_of_no_session (hn : e.network.Proper) (hs : e.sessions = []) :
    e.IsCoherent := by
  refine ⟨⟨hn, fun {i a} hi => ?_⟩, orderly_of_no_session hs⟩
  rw [standings, hs] at hi
  cases hi

/-- The engine came about by a run over a network that operations made, with no session at the
start. -/
def Reachable (e : Engine) : Prop :=
  ∃ (ops : List Network.Operation) (bootDelay clock : Double) (advised : Bool)
    (listener : Listener) (acts : List Act),
    e = run { network := Network.build ops, clock, bootDelay, advised, listener } acts

/-- Every run of an engine keeps its sessions coherent. -/
theorem Reachable.isCoherent (h : e.Reachable) : e.IsCoherent := by
  obtain ⟨ops, bootDelay, clock, advised, listener, acts, rfl⟩ := h
  refine run_induction (P := IsCoherent) ?_ (fun _ a h => isCoherent_act h a) acts
  exact isCoherent_of_no_session (Network.proper_build ops) rfl

/-- A coherent engine never ends a line in a fault that says that a selection is lost. -/
theorem isLost_execute (h : e.IsCoherent) {line : String} {f : Fault}
    (hf : (e.execute id line).1 = .error f) : f.isLost = false := by
  obtain hall | ⟨s, hs, hopen⟩ := closed_or_open e id
  · rw [execute_of_closed hall] at hf
    cases hf
  obtain ⟨s', result, -⟩ := execute_result line hs hopen
  obtain ⟨d, found, hsuits⟩ := suits_polled h hs hopen
  rw [hf] at result
  cases result with
  | lostMode => rfl
  | failed explained _ =>
    generalize pollStanding e.clock s.standing = st at explained found hsuits
    cases f with
    | noInterface =>
      obtain ⟨name, hname, -⟩ := hsuits.place.interface_eq explained.1
      rw [explained.2] at hname
      cases hname
    | noVlan =>
      obtain ⟨vlan, hvlan, -⟩ := hsuits.place.vlan_eq explained.1
      rw [explained.2] at hvlan
      cases hvlan
    | noLine =>
      obtain ⟨name, hname⟩ := hsuits.place.line_eq explained.1
      rw [explained.2] at hname
      cases hname
    | neverEnsured _ _ =>
      obtain ⟨mode, x, hx, hnone⟩ := explained
      obtain ⟨name, hname, there⟩ := hsuits.place.interface_eq mode
      have hd : e.network.device? st.uid = some d := by
        rw [hsuits.uid, Network.device?, (h.proper _ _ found).trimmed, found]
      obtain rfl : d = x := Option.some.inj (hd.symm.trans hx)
      obtain ⟨i, hi⟩ := Roster.contains_iff.1 there
      rw [hname, Device.interface?, Value.key_text] at hnone
      cases hi.symm.trans (Except.ok.inj hnone)
    | _ => rfl

end Engine

/-! ## What the invariant says of sessions -/

/-- A session agrees with its device.  Its mode is one about an interface, a VLAN or a line exactly
if one is selected; the device has what is selected; and the prompt shows the name of the device. -/
structure Session.Agrees (d : Device) (s : Session) : Prop where
  hostname : s.hostname = d.hostname
  interface : s.place.interface ≠ .null ↔ s.mode = .interface
  hasInterface : s.mode = .interface → ∃ i, d.interface? s.place.interface = .ok (some i)
  vlan : s.place.vlan ≠ .null ↔ s.mode = .vlan
  hasVlan : s.mode = .vlan → ∃ vlan, s.place.vlan = .int vlan ∧ minVlan ≤ vlan ∧ vlan ≤ maxVlan ∧
    d.vlans.contains vlan = true ∧ d.supportsVlans = true
  line : s.place.line ≠ .null ↔ s.mode = .line
  hasLine : s.mode = .line → s.place.line = .text "console" ∨ s.place.line = .text "vty"

theorem Standing.Suits.agrees {d : Device} {s : Session} (h : s.standing.Suits d) : s.Agrees d := by
  have fits : s.place.Fits d := h.place
  refine ⟨h.hostname, ?_, ?_, ?_, ?_, ?_, ?_⟩ <;> rw [Session.mode] <;>
    generalize s.place = p at fits
  · cases fits <;> simp
  · intro hm
    obtain ⟨name, hname, there⟩ := fits.interface_eq hm
    rw [hname, Device.interface?, Value.key_text]
    obtain ⟨i, hi⟩ := Roster.contains_iff.1 there
    exact ⟨i, congrArg Except.ok hi⟩
  · cases fits <;> simp
  · intro hm
    cases fits with
    | vlan low high supported there => exact ⟨_, rfl, low, high, there, supported⟩
    | _ => cases hm
  · cases fits <;> simp
  · intro hm
    cases fits with
    | line name => cases name <;> simp [LineName.name]
    | _ => cases hm

namespace Engine

/-- In every run over a network that operations made, every open session agrees with its device, and
no line ends in a fault that says that a selection is lost. -/
theorem sessions_agree {e : Engine} (h : e.Reachable) :
    (∀ id s, e.session? id = some s → s.closed = false →
      ∃ d, e.network.device? s.uid = some d ∧ s.Agrees d) ∧
    ∀ id line f, (e.execute id line).1 = .error f → f.isLost = false := by
  refine ⟨fun id s hs hopen => ?_, fun id line f hf => isLost_execute h.isCoherent hf⟩
  obtain ⟨d, found, hsuits⟩ :=
    h.isCoherent.suits (getElem?_standings_of_session? hs) hopen
  refine ⟨d, ?_, hsuits.agrees⟩
  have trimmed : Text.trim s.uid = s.uid := (h.isCoherent.proper _ _ found).trimmed
  rw [Network.device?, trimmed]
  exact found

/-- Two sessions, one of which configures a VLAN of its switch. -/
theorem sessions_agree_in_vlan_mode :
    let e := run
      { network := Network.build [.addDevice { uid := "S1", kind := .text "SWITCH_L3" },
          .addDevice { uid := "S2", kind := .text "SWITCH_L2" }]
        bootDelay := usualBootDelay }
      [.opens "S1", .opens "S2", .line 1 "enable", .line 0 "enable", .line 1 "conf t",
        .line 1 "vlan 10"]
    e.Reachable ∧ ∃ s d, e.session? 1 = some s ∧ s.mode = .vlan ∧
      e.network.device? s.uid = some d ∧ s.Agrees d := by
  intro e
  have reachable : e.Reachable := ⟨_, _, _, _, _, _, rfl⟩
  have hmode : (e.session? 1).map (fun s => (s.closed, s.mode)) = some (false, .vlan) := by
    decide +kernel
  obtain ⟨s, hs, hm⟩ := Option.map_eq_some_iff.1 hmode
  obtain ⟨hopen, hm⟩ := Prod.mk.inj hm
  obtain ⟨d, hd, agrees⟩ := (sessions_agree reachable).1 1 s hs hopen
  exact ⟨reachable, s, d, hs, hm, hd, agrees⟩

end Engine

end NetLab
