import NetLab.Proofs.Engine.Full
import NetLab.Proofs.Engine.InUse
import NetLab.Proofs.Network.Joined
import NetLab.Proofs.Network.Success
import NetLab.Proofs.Port.Order

set_option autoImplicit false

/-!
# The VLAN of a port

A port is named in two places: a session selects an interface by what is typed, and the list of
ports gives each link of the device a name and a number.  Both name the same port: the access VLAN
that a session gives to the interface of a number is shown for the end host at the other end of the
link of that number (`Engine.assigns_of_port`), whatever happened to the network before.
-/

namespace NetLab

/-! ## The two lines -/

namespace Command

theorem meaning_interface (word : String) (words : List String) :
    meaning .config ("interface" :: word :: words) = .plain .interface (word :: words) := by
  have table_eq : table .config =
      ofConfig.take 1 ++ ofConfig[1] :: (ofConfig.drop 2 ++ ofEveryMode) := rfl
  have keywords : ofConfig[1].keywords = ["interface"] := by decide +kernel
  exact meaning_keywords table_eq (by decide +kernel) keywords (word :: words) rfl (by decide)

theorem meaning_accessVlan (word : String) :
    meaning .interface ["switchport", "access", "vlan", word] = .plain .accessVlan [word] := by
  have table_eq : table .interface =
      ofInterface.take 3 ++ ofInterface[3] :: (ofInterface.drop 4 ++ ofEveryMode) := rfl
  have keywords : ofInterface[3].keywords = ["switchport", "access", "vlan"] := by decide +kernel
  exact meaning_keywords table_eq (by decide +kernel) keywords [word] rfl (by decide)

end Command

namespace Port

/-- A line selects the port of a number: the type of the port is typed as a word of letters, and its
number in the same word or in one of its own. -/
def Selects (line w : String) (number : Nat) : Prop :=
  line = "interface " ++ w ++ "0/" ++ toString number ∨
    line = "interface " ++ w ++ " 0/" ++ toString number

variable {line w : String} {k : Nat}

theorem words_slot (n : Nat) : Text.words ("0/" ++ toString n) = ["0/" ++ toString n] :=
  Text.words_of_notBlank (Text.append_ne_empty_left (by decide)) (notBlank_slot n)

theorem IsGigabit.words_append_slot (hw : IsGigabit w) (n : Nat) :
    Text.words (w ++ ("0/" ++ toString n)) = [w ++ ("0/" ++ toString n)] := by
  refine Text.words_of_notBlank (Text.append_ne_empty_left hw.ne_empty) fun c hc => ?_
  rw [String.toList_append] at hc
  exact (List.mem_append.1 hc).elim (hw.notBlank c) (notBlank_slot n c)

/-- A line that selects a port means that the interface is selected that has its name. -/
theorem Selects.meaning (h : Selects line w (k + 1)) (hw : IsGigabit w) :
    ∃ words, Command.meaning .config (Text.words line) = .plain .interface words ∧
      normalize (String.join words) = name k := by
  have keyword : Text.words "interface" = ["interface"] := by decide +kernel
  rcases h with rfl | rfl
  · have line : "interface " ++ w ++ "0/" ++ toString (k + 1) =
        "interface" ++ " " ++ (w ++ ("0/" ++ toString (k + 1))) := by
      simp only [String.append_assoc]
      rfl
    rw [line, Text.words_append, keyword, hw.words_append_slot]
    refine ⟨_, Command.meaning_interface _ _, ?_⟩
    rw [String.join_cons, String.join_nil, String.append_empty, hw.normalize_eq]
  · have line : "interface " ++ w ++ " 0/" ++ toString (k + 1) =
        "interface" ++ " " ++ (w ++ " " ++ ("0/" ++ toString (k + 1))) := by
      simp only [String.append_assoc]
      rfl
    rw [line, Text.words_append, Text.words_append, keyword, words_slot,
      Text.words_of_notBlank hw.ne_empty hw.notBlank]
    refine ⟨[w, "0/" ++ toString (k + 1)], Command.meaning_interface _ _, ?_⟩
    rw [String.join_cons, String.join_cons, String.join_nil, String.append_empty, hw.normalize_eq]

end Port

/-- A number behind a text and a blank is one more word. -/
theorem Text.words_append_toString {v : Int} (low : 1 ≤ v) {line s : String}
    (spaced : line = s ++ " ") : Text.words (line ++ toString v) = Text.words s ++ [toString v] := by
  obtain ⟨n, rfl⟩ : ∃ n : Nat, v = n + 1 := ⟨(v - 1).toNat, by omega⟩
  rw [spaced, Text.words_append, Port.toString_succ, Port.words_number]

namespace Command

/-- The second line is cut into the keywords and the number. -/
theorem words_accessVlan {v : Int} (low : 1 ≤ v) :
    Text.words ("switchport access vlan " ++ toString v) =
      ["switchport", "access", "vlan", toString v] := by
  have spaced : "switchport access vlan " = "switchport access vlan" ++ " " := by decide
  have keywords : Text.words "switchport access vlan" = ["switchport", "access", "vlan"] := by
    decide +kernel
  rw [Text.words_append_toString low spaced, keywords]
  rfl

end Command

theorem readVlan_toString {v : Int} (low : minVlan ≤ v) (high : v ≤ maxVlan) :
    readVlan (toString v) = some v := by
  have low' : 1 ≤ v := low
  have high' : v ≤ 4094 := high
  have short : Numeral.IsShort v := by
    refine Nat.lt_of_lt_of_le (show v.natAbs < 10 ^ 4 by omega) ?_
    exact Nat.pow_le_pow_right (by decide) (by decide)
  rw [readVlan, Numeral.parse_toString short]
  simp [low, high]

/-! ## Networks -/

theorem Kind.isEndHost_iff (k : Kind) : k.isEndHost = true ↔ k ∈ [pc, printer, server] := by
  cases k <;> decide

/-- A change of a device concerns its interfaces alone. -/
def Device.Rewires (f : Device → Device) : Prop :=
  ∀ d, f d = { d with interfaces := (f d).interfaces }

namespace Device.Rewires

variable {f g : Device → Device}

theorem id : Rewires id := fun _ => rfl

theorem putInterface (i : Interface) : Rewires (·.putInterface i) := fun _ => rfl

theorem comp (hg : Rewires g) (hf : Rewires f) : Rewires (g ∘ f) := fun d => by
  rw [Function.comp_apply, hg (f d), hf d]

end Device.Rewires

namespace Network

variable {n : Network} {uid : String} {d : Device}

/-- An interface can be selected on every device, and is there then. -/
theorem exists_ensureInterface (h : n.device? uid = some d) (name : String) :
    ∃ i f, n.ensureInterface uid (.text name) = .ok (i, n.alter uid f) ∧ Device.Rewires f ∧
      (f d).interfaces.get? (.text name) = some i := by
  obtain ⟨⟨i, m⟩, ensured⟩ := succeeds_ensureInterface h name
  obtain ⟨x, k, hx, hk, found | made⟩ := ensureInterface_eq_ok ensured
  · obtain ⟨there, rfl⟩ := found
    obtain rfl : x = d := Option.some.inj (hx.symm.trans h)
    obtain rfl : .text name = k := Except.ok.inj ((Value.key_text name).symm.trans hk)
    refine ⟨i, id, ?_, .id, there⟩
    rw [alter_id, ensured]
  · obtain ⟨-, rfl, rfl⟩ := made
    refine ⟨_, _, ensured, .putInterface _, ?_⟩
    rw [Device.putInterface, Roster.get?_put]
    exact if_pos rfl

/-- An interface that is there can be changed. -/
theorem editInterface_of_found {name : String} {i : Interface} (h : n.device? uid = some d)
    (there : d.interfaces.get? (.text name) = some i) (g : Interface → Interface) :
    n.editInterface uid (.text name) g = .ok ({ g i with key := i.key },
      n.alter uid (·.putInterface { g i with key := i.key })) := by
  obtain ⟨⟨j, m⟩, edited⟩ := succeeds_editInterface h (Roster.contains_iff.2 ⟨i, there⟩) g
  obtain ⟨x, k, old, hx, hk, hold, rfl, rfl⟩ := editInterface_eq_ok edited
  obtain rfl : x = d := Option.some.inj (hx.symm.trans h)
  obtain rfl : .text name = k := Except.ok.inj ((Value.key_text name).symm.trans hk)
  obtain rfl : old = i := Option.some.inj (hold.symm.trans there)
  exact edited

/-- The access VLAN of an interface that was selected can be set. -/
theorem exists_editInterface {name : String} {i : Interface} {f : Device → Device}
    (found : n.device? uid = some d) (rewires : Device.Rewires f)
    (proper : (n.alter uid f).Proper) (there : (f d).interfaces.get? (.text name) = some i)
    (vlan : Value) :
    ∃ j g, (n.alter uid f).editInterface uid (.text name) (fun i => { i with accessVlan := vlan }) =
        .ok (j, n.alter uid g) ∧ Device.Rewires g ∧
      (g d).interfaces.get? (.text name) = some j ∧ j.accessVlan = vlan := by
  have foundNow := device?_alter f found
  have key : i.key.plain = .text name := (proper _ _ foundNow).keyed _ _ there
  let changed : Interface := { i with accessVlan := vlan }
  refine ⟨changed, (·.putInterface changed) ∘ f, ?_, .comp (.putInterface changed) rewires, ?_, rfl⟩
  · rw [editInterface_of_found foundNow there, alter_alter]
  · change ((f d).interfaces.put i.key.plain _).get? (.text name) = _
    rw [key, Roster.get?_put, if_pos rfl]

/-- The VLAN tag that is shown for the device of an id. -/
def tag? (n : Network) (uid : String) : Option Value := (n.devices.get? uid).map (·.displayVlan)

/-- A VLAN was given to the port of a number, at which there is a link: the interface of the port
has it as its access VLAN.  A PC, printer or server at the other end of the link shows it as its
tag, and this is announced; any other neighbour keeps its tag, and nothing is printed.  No other
device is given a tag. -/
structure Assigns (n m : Network) (uid : String) (number : Nat) (l : Link String) (v : Int)
    (output : String) : Prop where
  access : ∃ d i, m.device? uid = some d ∧
    d.interfaces.get? (.text ("GigabitEthernet0/" ++ toString number)) = some i ∧
    i.accessVlan = .int v
  neighbour : ∃ d, n.devices.get? (l.other uid) = some d ∧
    (d.kind ∈ [.pc, .printer, .server] → m.tag? (l.other uid) = some (.int v) ∧
      output = "[Sim]: Assigned neighbor device on GigabitEthernet0/" ++ toString number ++
        " to VLAN " ++ toString v) ∧
    (d.kind ∉ [.pc, .printer, .server] → m.tag? (l.other uid) = n.tag? (l.other uid) ∧
      output = "")
  others : ∀ other, other ≠ l.other uid → m.tag? other = n.tag? other

variable {m : Network} {number : Nat} {l : Link String} {v : Int} {i : Interface} {host : Device}

theorem tag?_alter (f : Device → Device) (other : String) : (n.alter uid f).tag? other =
    (n.devices.get? other).map fun d => (if other = Text.trim uid then f d else d).displayVlan := by
  rw [tag?, get?_alter, Option.map_map]
  rfl

theorem tag?_of_rewires {f : Device → Device} (hf : Device.Rewires f) (other : String) :
    (n.alter uid f).tag? other = n.tag? other := by
  rw [tag?_alter, tag?]
  refine congrArg (Option.map · _) (funext fun d => ?_)
  split
  · rw [hf d]
  · rfl

theorem tag?_tagged {x : Value} (trimmed : Text.trim uid = uid)
    (there : n.devices.get? uid = some d) (other : String) :
    (n.alter uid (·.tagged x)).tag? other = if other = uid then some x else n.tag? other := by
  rw [tag?_alter, trimmed]
  split
  · next same =>
    rw [same, there, Option.map_some]
    rfl
  · rfl

/-- A tag on some device leaves the interfaces of every device. -/
theorem device?_tagged {host : String} {x : Value} (h : n.device? uid = some d) :
    ∃ d', (n.alter host (·.tagged x)).device? uid = some d' ∧ d'.interfaces = d.interfaces := by
  unfold device? at h ⊢
  rw [get?_alter, h, Option.map_some]
  refine ⟨_, rfl, ?_⟩
  split
  · rfl
  · rfl

/-- A change of interfaces leaves devices where they are, and what they are. -/
theorem exists_of_rewires {f : Device → Device} {other : String} (hf : Device.Rewires f)
    (h : n.devices.get? other = some d) :
    ∃ d', (n.alter uid f).devices.get? other = some d' ∧ d'.kind = d.kind := by
  rw [get?_alter, h, Option.map_some]
  refine ⟨_, rfl, ?_⟩
  split
  · rw [hf d]
  · rfl

section

variable {f : Device → Device} {k : Nat} (rewires : Device.Rewires f)
  (found : n.device? uid = some d) (set : (f d).interfaces.get? (.text (Port.name k)) = some i)
  (vlan : i.accessVlan = .int v) (neighbour : n.devices.get? (l.other uid) = some host)

include rewires found set vlan neighbour

theorem assigns_untagged (other : host.kind.isEndHost = false) :
    n.Assigns (n.alter uid f) uid (k + 1) l v "" := by
  rw [Port.name_eq] at set
  refine ⟨⟨f d, i, device?_alter f found, set, vlan⟩,
    ⟨host, neighbour, fun isEnd => ?_, fun _ => ?_⟩, fun u _ => tag?_of_rewires rewires u⟩
  · rw [(Kind.isEndHost_iff _).2 isEnd] at other
    cases other
  · exact ⟨tag?_of_rewires rewires _, rfl⟩

theorem assigns_tagged (trimmed : Text.trim (l.other uid) = l.other uid)
    (isEnd : host.kind.isEndHost = true) :
    n.Assigns ((n.alter uid f).alter (l.other uid) (·.tagged (.int v))) uid (k + 1) l v
      ("[Sim]: Assigned neighbor device on " ++ (Value.text (Port.name k)).display ++ " to VLAN " ++
        toString v) := by
  obtain ⟨d', found', same⟩ := device?_tagged (device?_alter f found)
  obtain ⟨host', there, -⟩ : ∃ d, (n.alter uid f).devices.get? (l.other uid) = some d ∧
      d.kind = host.kind := exists_of_rewires rewires neighbour
  have tags := tag?_tagged (x := .int v) trimmed there
  rw [← same, Port.name_eq] at set
  refine ⟨⟨d', i, found', set, vlan⟩, ⟨host, neighbour, fun _ => ⟨?_, ?_⟩, fun notEnd => ?_⟩,
    fun u apart => ?_⟩
  · rw [tags, if_pos rfl]
  · rw [Value.display, Port.name_eq, ← String.append_assoc]
    rfl
  · exact absurd ((Kind.isEndHost_iff _).1 isEnd) notEnd
  · rw [tags, if_neg apart, tag?_of_rewires rewires]

end

end Network

/-! ## Commands -/

namespace Console

variable {c : Console} {n m : Network} {name word : String} {v : Int} {i : Interface}

theorem selectInterface_eq {words : List String} (named : Port.normalize (String.join words) = name)
    (ensured : c.network.ensureInterface c.session.uid (.text name) = .ok (i, m)) :
    c.selectInterface words = .done "" ((c.withNetwork m).onSession fun s =>
      { s with place := { mode := .interface, interface := .text name } }) := by
  rw [selectInterface, named, ensured]
  rfl

theorem setAccessVlan_eq (read : readVlan word = some v)
    (current : c.session.place.interface = .text name)
    (edited : c.network.editInterface c.session.uid (.text name)
      (fun i => { i with accessVlan := .int v }) = .ok (i, m)) :
    c.setAccessVlan word = (c.withNetwork m).tagNeighbour v := by
  rw [setAccessVlan, read]
  dsimp only
  rw [editSelected, current]
  dsimp only
  rw [edited]
  rfl

/-- What becomes of the device at the other end of the link at the selected port. -/
theorem tagNeighbour_eq {l : Link String} {d : Device} (proper : c.network.Proper)
    (port : Port.linkFor? c.session.uid c.session.place.interface c.network.links.values =
      .ok (some l))
    (there : c.network.devices.get? (l.other c.session.uid) = some d) :
    c.tagNeighbour v = if d.kind.isEndHost then
      .done ("[Sim]: Assigned neighbor device on " ++ c.session.place.interface.display ++
        " to VLAN " ++ toString v)
        (c.withNetwork (c.network.alter (l.other c.session.uid) (·.tagged (.int v))))
      else c.quiet := by
  have stands := proper _ _ there
  have found : c.network.device? d.uid = some d := by
    rw [Network.device?, stands.uid, stands.trimmed, there]
  have tagged : c.network.setDisplayVlan d.uid (.int v) =
      .ok (c.network.alter (l.other c.session.uid) (·.tagged (.int v))) := by
    rw [Network.setDisplayVlan, Network.update_eq_ok_iff]
    exact ⟨⟨d, found⟩, by rw [stands.uid]; rfl⟩
  rw [tagNeighbour, port, attempt]
  dsimp only
  rw [there]
  dsimp only
  rw [tagged]
  rfl

/-- The VLAN that is given to the selected interface is given to the port of its number. -/
theorem setAccessVlan_assigns {f : Device → Device} {d host : Device} {l : Link String} {k : Nat}
    (rewires : Device.Rewires f) (network : c.network = n.alter c.session.uid f)
    (proper : c.network.Proper) (found : n.device? c.session.uid = some d)
    (there : (f d).interfaces.get? (.text (Port.name k)) = some i)
    (current : c.session.place.interface = .text (Port.name k))
    (link : Port.linkFor? c.session.uid (.text (Port.name k)) n.links.values = .ok (some l))
    (neighbour : n.devices.get? (l.other c.session.uid) = some host)
    (read : readVlan word = some v) :
    ∃ output m, c.setAccessVlan word = .done output (c.withNetwork m) ∧
      n.Assigns m c.session.uid (k + 1) l v output := by
  obtain ⟨j, g, edited, keeps, set, vlan⟩ :=
    Network.exists_editInterface found rewires (network ▸ proper) there (.int v)
  rw [← network] at edited
  have properThen : (n.alter c.session.uid g).Proper := proper.editInterface edited
  obtain ⟨host', neighbour', kind⟩ : ∃ d,
      (n.alter c.session.uid g).devices.get? (l.other c.session.uid) = some d ∧
        d.kind = host.kind := Network.exists_of_rewires keeps neighbour
  have trimmed : Text.trim (l.other c.session.uid) = l.other c.session.uid :=
    (properThen _ _ neighbour').trimmed
  have port : Port.linkFor? c.session.uid c.session.place.interface n.links.values =
      .ok (some l) := by
    rw [current]
    exact link
  have outcome := tagNeighbour_eq (v := v) (c := c.withNetwork (n.alter c.session.uid g))
    properThen port neighbour'
  rw [setAccessVlan_eq read current edited, outcome, kind]
  cases isEnd : host.kind.isEndHost with
  | true =>
    refine ⟨_, _, if_pos rfl, ?_⟩
    dsimp only [withNetwork]
    rw [current]
    exact Network.assigns_tagged keeps found set vlan neighbour trimmed isEnd
  | false => exact ⟨_, _, rfl, Network.assigns_untagged keeps found set vlan neighbour isEnd⟩

end Console

/-! ## Lines -/

namespace Engine

variable {e : Engine} {id : Nat} {s : Session} {line output : String}

/-- A line that is carried out and leaves the session open. -/
theorem execute_done {c : Console} (taken : e.taker? id = some s) (notBlank : Text.trim line ≠ "")
    (done : (e.console (s.enterLine (Text.trim line))).carryOut ⟨e.clock, e.bootDelay⟩
      (Command.meaning s.mode (Text.words line)) = .done output c)
    (isOpen : c.session.closed = false) :
    (e.execute id line).1 = .ok (c.session.reply output) ∧
      (e.execute id line).2.network = c.network ∧
      ∃ s', (e.execute id line).2.session? id = some s' ∧ s'.standing = c.session.standing := by
  obtain ⟨hs, -⟩ := taker?_eq_some.1 taken
  have outcome : ({ network := (e.poll id).network, session := s.enterLine (Text.trim line) } :
      Console).carryOut ⟨(e.poll id).clock, (e.poll id).bootDelay⟩
        (Command.meaning s.mode (Text.words (Text.trim line))) = .done output c := by
    rw [Text.words_trim, network_poll, clock_poll, bootDelay_poll]
    exact done
  have settled := carryOut_eq_settle hs (Text.trim line)
  rw [outcome, Outcome.upshot, if_neg (by rw [isOpen]; exact Bool.false_ne_true)] at settled
  rw [execute_taken taken notBlank, settled]
  exact ⟨rfl, rfl, _, session?_settle hs _ _, rfl⟩

/-- A line with a word in it is not blank. -/
theorem trim_ne_empty_of_words {line : String} (h : Text.words line ≠ []) :
    Text.trim line ≠ "" := by
  intro blank
  rw [← Text.words_trim, blank] at h
  exact h rfl

/-- A line that means an action which leaves the session open. -/
theorem execute_plain {a : Action} {args : List String} {c : Console} (taken : e.taker? id = some s)
    (meant : Command.meaning s.mode (Text.words line) = .plain a args)
    (done : a.run ⟨e.clock, e.bootDelay⟩ args (e.console (s.enterLine (Text.trim line))) =
      .done output c) (isOpen : c.session.closed = false) :
    (e.execute id line).1 = .ok (c.session.reply output) ∧
      (e.execute id line).2.network = c.network ∧
      ∃ s', (e.execute id line).2.session? id = some s' ∧ s'.standing = c.session.standing := by
  have words : Text.words line ≠ [] := by
    intro none
    rw [none] at meant
    cases meant
  refine execute_done taken (trim_ne_empty_of_words words) ?_ isOpen
  rw [meant]
  exact done

/-- A line that shows something, also under `do`. -/
theorem execute_shows {a : Action} {args : List String} (taken : e.taker? id = some s)
    (meant : Command.meaning s.mode (Text.words line) = .plain a args ∨
      Command.meaning s.mode (Text.words line) = .privileged a args)
    (shows : ∀ c : Console, c.network = e.network → c.session.uid = s.uid →
      a.run ⟨e.clock, e.bootDelay⟩ args c = .done output c) :
    ∃ reply, (e.execute id line).1 = .ok reply ∧ reply.output = output := by
  have isOpen := (taker?_eq_some.1 taken).2.1
  have words : Text.words line ≠ [] := by
    intro none
    rw [none] at meant
    obtain meant | meant := meant <;> cases meant
  obtain ⟨c, done, closed⟩ : ∃ c, (e.console (s.enterLine (Text.trim line))).carryOut
      ⟨e.clock, e.bootDelay⟩ (Command.meaning s.mode (Text.words line)) = .done output c ∧
        c.session.closed = false := by
    obtain meant | meant := meant
    · rw [meant]
      exact ⟨_, shows _ rfl rfl, isOpen⟩
    · rw [meant, Console.carryOut, shows _ rfl rfl]
      exact ⟨_, rfl, isOpen⟩
  obtain ⟨replied, -⟩ := execute_done taken (trim_ne_empty_of_words words) done closed
  exact ⟨_, replied, rfl⟩

/-- A session that is open and has booted takes lines as it stands. -/
theorem taker?_of_standing (hs : e.session? id = some s) (isOpen : s.closed = false)
    (booted : s.deadline = none) (key : s.mode.isKey = true) :
    ∃ s', e.taker? id = some s' ∧ s'.standing = s.standing := by
  have polled : s.polled e.clock = s.showHints := by
    rw [Session.polled, Session.woken_of_not_due (by rw [Session.due, booted]; rfl)]
  refine ⟨s.polled e.clock, taker?_eq_some.2 ⟨session?_poll hs isOpen, ?_⟩, by rw [polled]; rfl⟩
  rw [polled]
  refine ⟨isOpen, ?_, key⟩
  change s.deadline.isSome = false
  rw [booted]
  rfl

/-- A line that selects a port leaves its interface there, and the session at it. -/
theorem execute_selects {w : String} {k : Nat} {d : Device} (taken : e.taker? id = some s)
    (config : s.mode = .config) (found : e.network.device? s.uid = some d)
    (gigabit : Port.IsGigabit w) (selects : Port.Selects line w (k + 1)) :
    ∃ reply f i s', (e.execute id line).1 = .ok reply ∧ reply.output = "" ∧
      (e.execute id line).2.network = e.network.alter s.uid f ∧ Device.Rewires f ∧
      (f d).interfaces.get? (.text (Port.name k)) = some i ∧
      (e.execute id line).2.taker? id = some s' ∧ s'.uid = s.uid ∧
      s'.place = { mode := .interface, interface := .text (Port.name k) } := by
  obtain ⟨-, isOpen, booted, -⟩ := taker?_eq_some.1 taken
  obtain ⟨i, f, ensured, rewires, made⟩ := Network.exists_ensureInterface found (Port.name k)
  obtain ⟨words, meant, named⟩ := selects.meaning gigabit
  rw [← config] at meant
  have done := Console.selectInterface_eq (c := e.console (s.enterLine (Text.trim line))) named
    ensured
  obtain ⟨replied, network, s₁, hs₁, standing⟩ := execute_plain taken meant done isOpen
  have noDeadline : s.deadline = none := by simpa [Session.booting] using booted
  have place : s₁.place = { mode := .interface, interface := .text (Port.name k) } :=
    congrArg Standing.place standing
  obtain ⟨s', taken', same⟩ := taker?_of_standing hs₁
    ((congrArg Standing.closed standing).trans isOpen)
    ((congrArg Standing.deadline standing).trans noDeadline) (by rw [Session.mode, place]; rfl)
  have standing' := same.trans standing
  exact ⟨_, f, i, s', replied, rfl, network, rewires, made, taken', congrArg Standing.uid standing',
    congrArg Standing.place standing'⟩

/-- The VLAN that is given to an interface by its name goes to the port of its number: in an engine
to which anything may have happened, on a session in configuration mode, at every port of its device
(none has a number that is too long for a line). -/
theorem assigns_of_port {ports : List (String × Link String)} {port : String × Link String}
    {k : Nat} {w : String} {v : Int} (use : e.InUse) (taken : e.taker? id = some s)
    (config : s.mode = .config) (listed : Port.map s.uid e.network.links.values = .ok ports)
    (there : ports[k]? = some port) (short : k + 1 < 10 ^ Numeral.maxDigits)
    (gigabit : Port.IsGigabit w) (selects : Port.Selects line w (k + 1)) (low : 1 ≤ v)
    (high : v ≤ 4094) :
    let selected := e.execute id line
    let assigned := selected.2.execute id ("switchport access vlan " ++ toString v)
    ∃ first second, selected.1 = .ok first ∧ first.output = "" ∧ assigned.1 = .ok second ∧
      e.network.Assigns assigned.2.network s.uid (k + 1) port.2 v second.output := by
  intro selected assigned
  obtain ⟨ops, made⟩ := use.made
  have proper : e.network.Proper := made ▸ Network.proper_build ops
  have joined : e.network.Joined := made ▸ Network.joined_build ops
  -- the name leads to a link between two devices
  have link := Port.linkFor?_of_map listed there short
  obtain ⟨mem, touches⟩ := Port.mem_of_linkFor? link
  obtain ⟨d, hd⟩ := joined.touched mem touches
  obtain ⟨host, neighbour⟩ : ∃ d, e.network.devices.get? (port.2.other s.uid) = some d :=
    joined.other mem
  have found : e.network.device? s.uid = some d := by
    rw [Network.device?, (proper _ _ hd).trimmed, hd]
  obtain ⟨first, f, i, s', replied, silent, network, rewires, set, taken', uid, place⟩ :=
    execute_selects taken config found gigabit selects
  have proper' : selected.2.network.Proper :=
    (made_execute e id line).induction proper fun _ op _ h => h.apply op
  have isOpen : s'.closed = false := (taker?_eq_some.1 taken').2.1
  have meant : Command.meaning s'.mode (Text.words ("switchport access vlan " ++ toString v)) =
      .plain .accessVlan [toString v] := by
    rw [Session.mode, place, Command.words_accessVlan low, Command.meaning_accessVlan]
  let typed := s'.enterLine (Text.trim ("switchport access vlan " ++ toString v))
  rw [← uid] at network found link neighbour
  obtain ⟨output, m, done, assigns⟩ := Console.setAccessVlan_assigns (c := selected.2.console typed)
    rewires network proper' found set (congrArg Place.interface place) link neighbour
    (readVlan_toString low high)
  obtain ⟨replied', network', -⟩ := execute_plain taken' meant done isOpen
  refine ⟨first, _, replied, silent, replied', ?_⟩
  rw [network', ← uid]
  exact assigns

/-- A switch has the links `L10` and `L2`, in this order: the PC at the second port is tagged. -/
theorem assigns_of_port_to_pc :
    let e := live { network := Network.empty, bootDelay := usualBootDelay }
      [.operate (.addDevice { uid := "S1", kind := .text "SWITCH_L2" }),
        .operate (.addDevice { uid := "H1", kind := .text "PC" }),
        .operate (.addLink "H1" "S1" (.text "L2")), .act (.opens "S1"),
        .act (.line 0 "enable"), .act (.line 0 "conf t"),
        .operate (.addLink "S1" "S1" (.text "L10"))]
    ∃ s, e.taker? 0 = some s ∧ s.mode = .config ∧
      let selected := e.execute 0 "interface gig 0/2"
      let assigned := selected.2.execute 0 "switchport access vlan 30"
      ∃ first second, selected.1 = .ok first ∧ first.output = "" ∧ assigned.1 = .ok second ∧
        e.network.Assigns assigned.2.network s.uid 2 ⟨.text "L2", "H1", "S1"⟩ 30 second.output := by
  intro e
  have use : e.InUse := ⟨_, _, _, _, _, rfl⟩
  have there : (e.taker? 0).map (fun s => (s.mode, s.uid)) = some (.config, "S1") := by
    decide +kernel
  obtain ⟨s, taken, stands⟩ := Option.map_eq_some_iff.1 there
  obtain ⟨config, uid⟩ := Prod.mk.inj stands
  let loop : Link String := ⟨.text "L10", "S1", "S1"⟩
  let cable : Link String := ⟨.text "L2", "H1", "S1"⟩
  have labelled : Port.Labelled e.network.links.values := ⟨by decide +kernel, by decide +kernel⟩
  have sorted : Port.sortedLinks s.uid e.network.links.values = .ok [loop, cable] := by
    rw [Port.sortedLinks_eq_ok_iff labelled, uid]
    exact ⟨by decide +kernel, by decide +kernel⟩
  have listed : Port.map s.uid e.network.links.values = .ok (Port.numbered [loop, cable]) := by
    rw [Port.map_eq, sorted]
    rfl
  have gigabit : Port.IsGigabit "gig" :=
    ⟨by decide +kernel, List.all_eq_true.1 (by decide +kernel)⟩
  have selects : Port.Selects "interface gig 0/2" "gig" 2 := .inr (by decide +kernel)
  have written : "switchport access vlan " ++ toString (30 : Int) =
      "switchport access vlan 30" := by
    decide +kernel
  have assigns := assigns_of_port (k := 1) (v := 30) use taken config listed
    (Port.getElem?_numbered [loop, cable] 1) (by decide +kernel) gigabit selects (by decide)
    (by decide)
  rw [written] at assigns
  exact ⟨s, taken, config, assigns⟩

end Engine

end NetLab
