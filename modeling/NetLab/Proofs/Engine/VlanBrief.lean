import NetLab.Proofs.Console.VlanBrief
import NetLab.Proofs.Engine.AccessPort
import NetLab.Proofs.Engine.InUse

set_option autoImplicit false

/-!
# The VLAN table of an engine in use

Whatever lines sessions are given, and whatever operations are made on the network in between, the
VLAN table that a device shows shares its access ports out among its VLANs, and the rows are what
`show vlan brief` prints (`Engine.ShowsVlans`).  A VLAN is deleted by a line or by an operation, and
made again by another; the first takes the row of the VLAN out of the table, and the second brings
it back with the ports that it had, whatever happened in between to anything but the interfaces of
the device (`Engine.vlanRows_of_live`).
-/

namespace NetLab

open Network (Operation)

/-! ## Changes of one VLAN -/

/-- The operation makes, renames or deletes the VLAN of a whole number. -/
def Network.Operation.isOnVlan : Operation → Bool
  | .setVlan _ (.int _) _ | .removeVlan _ (.int _) => true
  | _ => false

namespace Network

variable {n : Network} {uid u : String} {d : Device} {v : Int} {name : Value}

/-- A device is found by its id however it is spaced. -/
theorem device?_congr (same : Text.trim u = Text.trim uid) : n.device? u = n.device? uid := by
  rw [device?, device?, same]

theorem device?_removeVlan (found : n.device? uid = some d) (switch : d.supportsVlans = true)
    (other : v ≠ 1) (same : Text.trim u = Text.trim uid) :
    (n.apply (.removeVlan u (.int v))).device? uid =
      some (d.withVlans (d.vlans.erase v)) := by
  rw [← device?_congr same] at found ⊢
  have removed : n.removeVlan u v =
      .ok (.ok (n.alter u fun d => d.withVlans (d.vlans.erase v))) := by
    refine bind_eq_ok_iff.2 ⟨d, device_eq_ok_iff.2 found, ?_⟩
    rw [switch, if_neg (by decide), if_neg other]
    exact bind_eq_ok_iff.2 ⟨_, update_eq_ok_iff.2 ⟨⟨d, found⟩, rfl⟩, rfl⟩
  rw [apply, removeVlanOf_int, removed]
  exact device?_alter _ found

theorem device?_setVlan (found : n.device? uid = some d) (switch : d.supportsVlans = true)
    (low : minVlan ≤ v) (high : v ≤ maxVlan) (same : Text.trim u = Text.trim uid) :
    (n.apply (.setVlan u (.int v) name)).device? uid =
      some (d.withVlans (writeVlan v name d.vlans)) := by
  rw [← device?_congr same] at found ⊢
  have set : n.setVlan u v name =
      .ok (.ok (n.alter u fun d => d.withVlans (writeVlan v name d.vlans))) := by
    have inRange : ¬ (decide (v < minVlan) || decide (maxVlan < v)) = true := by
      simp only [Bool.or_eq_true, decide_eq_true_eq]
      omega
    refine bind_eq_ok_iff.2 ⟨d, device_eq_ok_iff.2 found, ?_⟩
    rw [switch, if_neg (by decide), if_neg inRange]
    exact bind_eq_ok_iff.2 ⟨_, update_eq_ok_iff.2 ⟨⟨d, found⟩, rfl⟩, rfl⟩
  rw [apply_setVlan_int, set]
  exact device?_alter _ found

end Network

/-! ## Lines that change one VLAN -/

namespace Command

theorem meaning_noVlan (word : String) :
    meaning .config ["no", "vlan", word] = .plain .noVlan [word] := by
  have table_eq : table .config =
      ofConfig.take 3 ++ ofConfig[3] :: (ofConfig.drop 4 ++ ofEveryMode) := rfl
  have keywords : ofConfig[3].keywords = ["no", "vlan"] := by decide +kernel
  exact meaning_keywords table_eq (by decide +kernel) keywords [word] rfl (by decide)

theorem meaning_vlan (word : String) : meaning .config ["vlan", word] = .plain .vlan [word] := by
  have table_eq : table .config =
      ofConfig.take 2 ++ ofConfig[2] :: (ofConfig.drop 3 ++ ofEveryMode) := rfl
  have keywords : ofConfig[2].keywords = ["vlan"] := by decide +kernel
  exact meaning_keywords table_eq (by decide +kernel) keywords [word] rfl (by decide)

variable {v : Int} (low : 1 ≤ v)

include low

theorem words_noVlan : Text.words ("no vlan " ++ toString v) = ["no", "vlan", toString v] := by
  have spaced : "no vlan " = "no vlan" ++ " " := by decide
  have keywords : Text.words "no vlan" = ["no", "vlan"] := by decide +kernel
  rw [Text.words_append_toString low spaced, keywords]
  rfl

theorem words_vlan : Text.words ("vlan " ++ toString v) = ["vlan", toString v] := by
  have spaced : "vlan " = "vlan" ++ " " := by decide
  have keywords : Text.words "vlan" = ["vlan"] := by decide +kernel
  rw [Text.words_append_toString low spaced, keywords]
  rfl

end Command

namespace Console

variable {c : Console} {word : String} {v : Int} {t : Timing} {args : List String}

/-- The network after a VLAN table was changed, or was not. -/
theorem network_changeVlans {x : Except Fault (Except Rejection Network)}
    {next : Console → Outcome}
    (hnext : ∀ m, (next (c.withNetwork m)).console.network = m) :
    (c.changeVlans x next).console.network = c.network.afterChange x := by
  cases x with
  | error f => rfl
  | ok r =>
    cases r with
    | error r => rfl
    | ok m => exact hnext m

theorem network_deleteVlan (read : readVlan word = some v) :
    (c.deleteVlan word).console.network =
      c.network.apply (.removeVlan c.session.uid (.int v)) := by
  rw [deleteVlan, read, Network.apply, Network.removeVlanOf_int]
  exact network_changeVlans fun _ => rfl

theorem network_selectVlan (read : readVlan word = some v) :
    (c.selectVlan word).console.network =
      c.network.apply (.setVlan c.session.uid (.int v) .null) := by
  rw [Network.apply_setVlan_int, selectVlan]
  cases found : c.network.device c.session.uid with
  | error f =>
    rw [Network.setVlan, found]
    rfl
  | ok d =>
    dsimp only [attempt]
    cases switch : d.supportsVlans with
    | false =>
      have rejected : c.network.setVlan c.session.uid v .null = .ok (.error .unsupported) := by
        refine bind_eq_ok_iff.2 ⟨d, found, ?_⟩
        rw [switch, if_pos (by decide)]
        rfl
      rw [rejected, if_pos (by decide)]
      rfl
    | true =>
      rw [if_neg (by decide), read]
      exact network_changeVlans fun _ => rfl

theorem network_nameVlan {name : String} (current : c.session.place.vlan = .int v) :
    (c.nameVlan name).console.network =
      c.network.apply (.setVlan c.session.uid (.int v) (.text name)) := by
  rw [nameVlan, current, Network.apply_setVlan_int]
  dsimp only
  rw [Network.setVlanOf_int]
  cases c.network.setVlan c.session.uid v (.text name) with
  | error f => rfl
  | ok r =>
    cases r with
    | error r => rfl
    | ok m => rfl

/-- An action that changes one VLAN makes this change of the network. -/
theorem network_run {a : Action} {op : Operation}
    (makes : a.Makes c.session.uid c.session.place args op) (single : op.isOnVlan = true) :
    (a.run t args c).console.network = c.network.apply op := by
  cases makes with
  | vlan read => exact network_selectVlan read
  | noVlan read => exact network_deleteVlan read
  | vlanName =>
    cases current : c.session.place.vlan with
    | int v => exact network_nameVlan current
    | _ =>
      rw [current] at single
      cases single
  | _ => cases single

/-- A line that means such an action makes the change; under `do` there is none. -/
theorem network_carryOut_of_makes {mode : Mode} {words : List String} {op : Operation}
    (makes : (Command.meaning mode words).Makes c.session.uid c.session.place op)
    (single : op.isOnVlan = true) :
    (c.carryOut t (Command.meaning mode words)).console.network = c.network.apply op := by
  obtain ⟨a, args, meant | meant, makes⟩ := makes
  · rw [meant]
    exact network_run makes single
  · have isOf := (Command.means_of_meaning.2 a args meant).isOf
    cases makes with
    | vlan _ => cases isOf
    | noVlan _ => cases isOf
    | vlanName => cases isOf
    | _ => cases single

end Console

namespace Engine

variable {e : Engine} {ev : Event} {uid : String} {d : Device} {v : Int}

/-- What an event makes of one VLAN is all that it makes of the network. -/
theorem network_happen_of_makes {op : Operation} (makes : ev.Makes e op)
    (single : op.isOnVlan = true) : (e.happen ev).network = e.network.apply op := by
  cases ev with
  | operate made =>
    obtain rfl : op = made := makes
    rfl
  | act a =>
    cases a with
    | line id line =>
      obtain ⟨s, taken, makes⟩ := makes
      have words : Text.words line ≠ [] := by
        intro none
        rw [Text.words_trim, none] at makes
        obtain ⟨_, _, meant | meant, -⟩ := makes <;> cases meant
      have network : ((e.poll id).console (s.enterLine (Text.trim line))).network = e.network :=
        network_poll e id
      change (e.execute id line).2.network = _
      rw [execute_taken taken (trim_ne_empty_of_words words), network_carryOut, ← network]
      exact Console.network_carryOut_of_makes makes single
    | _ => cases makes

/-! ## Deleting a VLAN, and asking for it again -/

/-- The event deletes a VLAN of a device, which may be spaced in any way. -/
def Event.Deletes (e : Engine) (ev : Event) (uid : String) (v : Int) : Prop :=
  ∃ u, Text.trim u = Text.trim uid ∧ ev.Makes e (.removeVlan u (.int v))

/-- The event asks for a VLAN on a device, with a name or none. -/
def Event.AsksFor (e : Engine) (ev : Event) (uid : String) (v : Int) (name : Value) : Prop :=
  ∃ u, Text.trim u = Text.trim uid ∧ ev.Makes e (.setVlan u (.int v) name)

theorem device?_of_deletes (deletes : ev.Deletes e uid v)
    (found : e.network.device? uid = some d) (switch : d.supportsVlans = true) (other : v ≠ 1) :
    (e.happen ev).network.device? uid = some (d.withVlans (d.vlans.erase v)) := by
  obtain ⟨u, same, makes⟩ := deletes
  rw [network_happen_of_makes makes rfl]
  exact Network.device?_removeVlan found switch other same

theorem device?_of_asksFor {name : Value} (asks : ev.AsksFor e uid v name)
    (found : e.network.device? uid = some d) (switch : d.supportsVlans = true)
    (low : minVlan ≤ v) (high : v ≤ maxVlan) : (e.happen ev).network.device? uid =
      some (d.withVlans (Network.writeVlan v name d.vlans)) := by
  obtain ⟨u, same, makes⟩ := asks
  rw [network_happen_of_makes makes rfl]
  exact Network.device?_setVlan found switch low high same

section

variable {id : Nat} {s : Session} (taken : e.taker? id = some s) (config : s.mode = .config)
  (low : minVlan ≤ v) (high : v ≤ maxVlan)

include taken config low high

/-- In configuration mode `no vlan` deletes a VLAN. -/
theorem Event.deletes_line :
    (Event.act (.line id ("no vlan " ++ toString v))).Deletes e s.uid v := by
  have meant : Command.meaning s.mode (Text.words (Text.trim ("no vlan " ++ toString v))) =
      .plain .noVlan [toString v] := by
    rw [Text.words_trim, Command.words_noVlan low, config, Command.meaning_noVlan]
  exact ⟨s.uid, rfl, s, taken, _, [toString v], .inl meant, .noVlan (readVlan_toString low high)⟩

/-- In configuration mode `vlan` asks for one. -/
theorem Event.asksFor_line :
    (Event.act (.line id ("vlan " ++ toString v))).AsksFor e s.uid v .null := by
  have meant : Command.meaning s.mode (Text.words (Text.trim ("vlan " ++ toString v))) =
      .plain .vlan [toString v] := by
    rw [Text.words_trim, Command.words_vlan low, config, Command.meaning_vlan]
  exact ⟨s.uid, rfl, s, taken, _, [toString v], .inl meant, .vlan (readVlan_toString low high)⟩

end

theorem live_nil (e : Engine) : e.live [] = e := rfl

theorem inUse_happen (use : e.InUse) (ev : Event) : (e.happen ev).InUse := by
  obtain ⟨bootDelay, clock, advised, listener, events, rfl⟩ := use
  exact ⟨bootDelay, clock, advised, listener, events ++ [ev], by simp [live]⟩

theorem inUse_live (use : e.InUse) (events : List Event) : (e.live events).InUse :=
  live_induction use fun _ ev _ h => inUse_happen h ev

theorem InUse.proper (use : e.InUse) (found : e.network.device? uid = some d) :
    d.Proper (Text.trim uid) := by
  obtain ⟨ops, made⟩ := use.made
  exact (made ▸ Network.proper_build ops) _ _ found

/-! ## The table that is shown -/

/-- The rows are the VLAN table of a device, which is what a session on the device prints when it is
asked for it, also under `do`, and each row is one line of the output. -/
structure ShowsVlans (e : Engine) (d : Device) (rows : List Show.VlanRow) : Prop where
  table : Show.ListsVlans d rows
  printed : ∀ id s line args, e.taker? id = some s → s.uid = d.uid →
    (Command.meaning s.mode (Text.words line) = .plain .showVlan args ∨
      Command.meaning s.mode (Text.words line) = .privileged .showVlan args) →
    ∃ reply, (e.execute id line).1 = .ok reply ∧
      reply.output = Show.output (Show.vlanHeadings ++ rows.map Show.VlanRow.text)
  readBack : Text.lines (Show.output (Show.vlanHeadings ++ rows.map Show.VlanRow.text)) =
    Show.vlanHeadings ++ rows.map Show.VlanRow.text

theorem output_showVlan {id : Nat} {s : Session} {line : String} {args lines : List String}
    (taken : e.taker? id = some s) (found : e.network.device? s.uid = some d)
    (shown : Show.vlanBrief d = .ok lines)
    (meant : Command.meaning s.mode (Text.words line) = .plain .showVlan args ∨
      Command.meaning s.mode (Text.words line) = .privileged .showVlan args) :
    ∃ reply, (e.execute id line).1 = .ok reply ∧ reply.output = Show.output lines := by
  refine execute_shows taken meant fun c network uid => ?_
  change c.attempt (c.network.device c.session.uid) _ = _
  rw [network, uid, Network.device_eq_ok_iff.2 found]
  change c.attempt (Show.vlanBrief d) _ = _
  rw [shown]
  rfl

theorem InUse.showsVlans (use : e.InUse) (found : e.network.device? uid = some d)
    (oneLine : d.OneLine) : e.ShowsVlans d (Show.vlanRows d) := by
  have proper := use.proper found
  refine ⟨Show.listsVlans proper oneLine, fun id s line args taken same meant => ?_,
    Show.lines_vlanRows oneLine⟩
  refine output_showVlan taken ?_ (Show.vlanBrief_eq oneLine) meant
  rw [same, Network.device?, proper.uid, proper.trimmed]
  exact found

/-- A device shows the rows that it had by now, and the row of a VLAN with the ports that this row
had before. -/
def BringsBack (e : Engine) (uid : String) (v : Int) (before now : List Show.VlanRow) : Prop :=
  ∃ d rows, e.network.device? uid = some d ∧ e.ShowsVlans d rows ∧
    rows.filter (fun r => r.vlan ≠ v) = now.filter (fun r => r.vlan ≠ v) ∧
    ∃ r ∈ rows, r.vlan = v ∧ ∀ old ∈ before, old.vlan = v → r.ports = old.ports

theorem InUse.bringsBack {name : Value} {before : List Show.VlanRow} (use : e.InUse)
    (found : e.network.device? uid = some d) (switch : d.supportsVlans = true)
    (oneLine : d.OneLine) (low : minVlan ≤ v) (high : v ≤ maxVlan)
    (named : name.given = true → name.IsLine) (asks : ev.AsksFor e uid v name)
    (ports : ∀ old ∈ before, old.vlan = v → old.ports = Show.vlanPorts d v) :
    (e.happen ev).BringsBack uid v before (Show.vlanRows d) := by
  have first := (use.proper found).firstVlan
  have found' := device?_of_asksFor asks found switch low high
  refine ⟨_, _, found', (inUse_happen use ev).showsVlans found' (oneLine.write first named),
    Show.filter_vlanRows_write first, ?_⟩
  obtain ⟨r, hr, number, shown⟩ :
      ∃ r ∈ Show.vlanRows (d.withVlans (Network.writeVlan v name d.vlans)),
        r.vlan = v ∧ r.ports = Show.vlanPorts d v := Show.exists_row_write first
  exact ⟨r, hr, number, fun old hold same => shown.trans (ports old hold same).symm⟩

/-- Every device of an engine in use shows its VLAN table, in which each access port of a VLAN of
the table is in the row of the VLAN, whatever lines were given to sessions and whatever operations
were made on the network.  When a VLAN is deleted, its row is gone and no other; and when it is
asked for again, whatever happened in between as long as the interfaces are the same, its row is
back with the ports that it had. -/
theorem vlanRows_of_live {bootDelay clock : Double} {advised : Bool} {listener : Listener}
    {events : List Event} {uid : String} {d : Device}
    (found : (live { network := Network.empty, clock, bootDelay, advised, listener }
      events).network.device? uid = some d) (oneLine : d.OneLine) :
    let e := live { network := Network.empty, clock, bootDelay, advised, listener } events
    e.ShowsVlans d (Show.vlanRows d) ∧
      ∀ ev v, 1 < v → d.supportsVlans = true → ev.Deletes e uid v →
        (e.happen ev).network.device? uid = some (d.withVlans (d.vlans.erase v)) ∧
          (e.happen ev).ShowsVlans (d.withVlans (d.vlans.erase v))
            ((Show.vlanRows d).filter fun r => r.vlan ≠ v) ∧
          ∀ later d', ((e.happen ev).live later).network.device? uid = some d' →
            d'.interfaces = d.interfaces → d'.supportsVlans = true → d'.OneLine →
            ∀ ev' name, v ≤ maxVlan → (name.given = true → name.IsLine) →
              ev'.AsksFor ((e.happen ev).live later) uid v name →
              (((e.happen ev).live later).happen ev').BringsBack uid v (Show.vlanRows d)
                (Show.vlanRows d') := by
  intro e
  have use : e.InUse := ⟨_, _, _, _, _, rfl⟩
  have first := (use.proper found).firstVlan
  refine ⟨use.showsVlans found oneLine, fun ev v other switch deletes => ?_⟩
  have use' : (e.happen ev).InUse := inUse_happen use ev
  have deleted := device?_of_deletes deletes found switch (Int.ne_of_gt other)
  refine ⟨deleted, ?_, fun later d' found' same switch' oneLine' ev' name high named asks => ?_⟩
  · have shows := use'.showsVlans deleted oneLine.erase
    rwa [Show.vlanRows_erase first (Int.ne_of_gt other)] at shows
  · refine (inUse_live use' later).bringsBack found' switch' oneLine' (Int.le_of_lt other) high
      named asks fun old hold number => ?_
    rw [Show.ports_of_mem hold, number, Show.vlanPorts_congr same]

/-- A switch with two interfaces of one short name in VLAN 10, a trunk, and a port in a VLAN that was
never made: VLAN 10 is deleted and made again. -/
theorem vlanRows_of_live_switch :
    let e := live { network := Network.empty, bootDelay := usualBootDelay }
      [.operate (.addDevice { uid := "S1", kind := .text "SWITCH_L2" }),
        .operate (.setVlan "S1" (.int 10) .null),
        .operate (.ensureInterface "S1" (.text "Gi0/1")),
        .operate (.ensureInterface "S1" (.text "GigabitEthernet0/1")),
        .operate (.ensureInterface "S1" (.text "Gi0/2")),
        .operate (.ensureInterface "S1" (.text "Gi0/3")),
        .operate (.editInterface "S1" (.text "Gi0/1") fun i => { i with accessVlan := .int 10 }),
        .operate (.editInterface "S1" (.text "GigabitEthernet0/1") fun i =>
          { i with accessVlan := .int 10 }),
        .operate (.editInterface "S1" (.text "Gi0/2") fun i =>
          { i with mode := .trunk, accessVlan := .int 10 }),
        .operate (.editInterface "S1" (.text "Gi0/3") fun i => { i with accessVlan := .int 20 }),
        .act (.opens "S1"), .act (.line 0 "enable"), .act (.line 0 "conf t")]
    let deleted := e.happen (.act (.line 0 ("no vlan " ++ toString 10)))
    let again := deleted.happen (.act (.line 0 ("vlan " ++ toString 10)))
    ∃ d, e.network.device? "S1" = some d ∧ e.ShowsVlans d (Show.vlanRows d) ∧
      (∃ r ∈ Show.vlanRows d, r.vlan = 10 ∧ r.ports.length = 2) ∧
      deleted.ShowsVlans (d.withVlans (d.vlans.erase 10))
        ((Show.vlanRows d).filter fun r => r.vlan ≠ 10) ∧
      again.BringsBack "S1" 10 (Show.vlanRows d)
        (Show.vlanRows (d.withVlans (d.vlans.erase 10))) := by
  intro e deleted again
  -- one evaluation of the run answers for the device and its ports, and one for the session
  have checked : (e.network.device? "S1").any (fun d => decide d.OneLine && d.supportsVlans &&
      d.vlans.contains 10 && (d.interfaces.values.filter (Show.isMember 10)).length == 2) =
        true := by
    decide +kernel
  have takers : [e, deleted].map (fun e => (e.taker? 0).map fun s => (s.mode, s.uid)) =
      [some (.config, "S1"), some (.config, "S1")] := by
    decide +kernel
  obtain ⟨d, found, checks⟩ := (Option.any_eq_true _ _).1 checked
  simp only [Bool.and_eq_true, decide_eq_true_eq, beq_iff_eq] at checks
  obtain ⟨⟨⟨oneLine, switch⟩, there⟩, two⟩ := checks
  simp only [List.map_cons, List.map_nil, List.cons.injEq, and_true, Option.map_eq_some_iff,
    Prod.mk.injEq] at takers
  obtain ⟨⟨s, taken, config, uid⟩, s', taken', config', uid'⟩ := takers
  have deletes := Event.deletes_line (v := 10) taken config (by decide) (by decide)
  have asks := Event.asksFor_line (v := 10) taken' config' (by decide) (by decide)
  rw [uid] at deletes
  rw [uid'] at asks
  obtain ⟨shown, changes⟩ := vlanRows_of_live found oneLine
  obtain ⟨found', shown', back⟩ := changes _ 10 (by decide) switch deletes
  obtain ⟨r, hr, number⟩ := Show.exists_row_iff.2 (.inr there)
  refine ⟨d, found, shown, ⟨r, hr, number, ?_⟩, shown', ?_⟩
  · rw [Show.ports_of_mem hr, number, (Show.vlanPorts_perm d 10).length_eq, two]
  · have at_once := back [] (d.withVlans (d.vlans.erase 10))
    rw [live_nil] at at_once
    exact at_once found' rfl switch oneLine.erase _ .null (by decide) (by decide) asks

end Engine

end NetLab
