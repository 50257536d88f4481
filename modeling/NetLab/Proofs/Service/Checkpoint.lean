import NetLab.Proofs.Network.Document
import NetLab.Proofs.Service.Run

set_option autoImplicit false

/-!
# Checkpoints of scripts

A script that ends in user mode can be cut in two: the second part may as well be run on the
topology that the first part answers with, in a session of its own.  The topology is reread as a
twin of the network that the first part left, and a session in user mode stands where a new one
does.  The times at which commands are given do not matter, as long as they never go back.
-/

namespace NetLab

/-! ## Checkpoints that are reread -/

/-- The document of a network without loops is loaded as a twin of the network. -/
theorem Schema.exists_twin_load {n : Network} (hs : n.Storable) (ht : n.Typed) (hl : n.Loopless) :
    ∃ m, load n.toDocument = .ok m ∧ n.Twin m := by
  obtain ⟨t, m, accepted, back, references, read⟩ := exists_load_toDocument hs ht hl
  have loaded : load n.toDocument = .ok m := by
    rw [load_eq_ok]
    exact ⟨t, accepted, references, by rw [back, read]⟩
  obtain ⟨m', read', document, keys, links⟩ := hs.ofDocument_toDocument
  obtain rfl : m' = m := Except.ok.inj (read'.symm.trans read)
  exact ⟨m', loaded, Network.twin_of_toDocument hs ht (storable_load loaded) (typed_load loaded)
    document keys links⟩

/-- A place of a mode that is written as user mode is about nothing. -/
theorem Place.Fits.eq_user {p : Place} {d : Device} (h : p.Fits d)
    (hm : p.mode.value = .text "user") : p = {} := by
  cases h with
  | user => rfl
  | _ => simp [Mode.value] at hm

namespace Service

variable {clock clock' : Nat → Double} {n m : Network} {uid : String} {id : Nat}
  {last last' : Engine} {rs : List CommandResult}

/-! ## Scripts as runs -/

/-- What a script comes to with the results of its commands, and the engine that they left. -/
def summary (id : Nat) (results : List CommandResult) (e : Engine) : ScriptResult :=
  let e := e.poll id
  let s := (e.session? id).getD default
  ⟨results, s.transcript, s.mode, s.closed, e.network⟩

/-- The engine of a script once its session is open. -/
def opened (n : Network) (d : Device) : Engine :=
  { scriptEngine n with
    sessions := [Session.start d.uid d.kind.name d.hostname]
    registry := (scriptEngine n).registry.enter d.uid 0 }.tell ⟨d.uid, .opened⟩

theorem openSession_scriptEngine (n : Network) (uid : String) :
    (scriptEngine n).openSession uid = (n.device uid).map fun d => (0, opened n d) := by
  change (n.device uid >>= _) = _
  cases n.device uid with
  | error f => rfl
  | ok d => rfl

/-- A script with a list of commands is a run of these commands in a new session. -/
theorem runScript_list (clock : Nat → Double) {d : Device} (found : n.device? uid = some d)
    (cs : List Value) : (runScript clock n uid (.list cs)).1 =
      (runCommands clock 0 cs 0 (opened n d)).1.map fun results =>
        summary 0 results (runCommands clock 0 cs 0 (opened n d)).2 := by
  have items : (Value.list cs).items = .ok cs := rfl
  rw [runScript, openSession_scriptEngine, Network.succeeds_device found, items]
  dsimp only [Except.map]
  cases runCommands clock 0 cs 0 (opened n d) with
  | mk out last =>
    cases out with
    | error f => rfl
    | ok results => rfl

theorem ready_opened {d : Device} (hs : n.Storable) (ht : n.Typed) (found : n.device? uid = some d)
    (clock : Nat → Double) : (opened n d).Ready clock 0 (Text.trim uid) 0 where
  tidy := by
    have opens : (scriptEngine n).openSession uid = .ok (0, opened n d) := by
      rw [openSession_scriptEngine, Network.succeeds_device found]
      rfl
    exact (tidy_scriptEngine hs ht).openSession opens
  punctual := by
    refine ⟨rfl, fun s hget t ht => ?_⟩
    obtain rfl := Option.some.inj hget
    cases ht
  device := congrArg some (hs.proper _ _ found).uid

/-! ## Where a run ends -/

/-- What is answered of the ends of two runs that are twins. -/
theorem summary_of_twin (rs rs' : List CommandResult) {k k' : Nat} {uid' : String}
    (twin : last.Twin id last') (ready : last.Ready clock id uid k) (now : last.clock = clock k)
    (ready' : last'.Ready clock' id uid' k') (now' : last'.clock = clock' k') :
    (summary id rs' last').mode = (summary id rs last).mode ∧
      (summary id rs' last').closed = (summary id rs last).closed ∧
      (summary id rs' last').network.toDocument = (summary id rs last).network.toDocument := by
  have document : (last'.poll id).network.toDocument = (last.poll id).network.toDocument := by
    rw [Engine.network_poll, Engine.network_poll]
    exact twin.network.toDocument_eq ready.tidy.storable
  have sessions := twin.sessions
  rw [summary, summary]
  dsimp only
  generalize hx : last.session? id = x at sessions
  generalize hy : last'.session? id = y at sessions
  cases sessions with
  | none =>
    refine ⟨?_, ?_, document⟩
    · rw [Engine.poll_of_none hx, Engine.poll_of_none hy, hx, hy]
    · rw [Engine.poll_of_none hx, Engine.poll_of_none hy, hx, hy]
  | some twin =>
    obtain ⟨s, hs, settled⟩ := ready.punctual.exists_polled now hx
    obtain ⟨s', hs', settled'⟩ := ready'.punctual.exists_polled now' hy
    rw [← settled, ← settled'] at twin
    rw [hs, hs']
    exact ⟨congrArg Place.mode twin.place, twin.closed, document⟩

/-- A run that ends in user mode leaves its session where a new one stands. -/
theorem twin_opened {k : Nat} (ready : last.Ready clock 0 (Text.trim uid) k)
    (now : last.clock = clock k) (mode : (summary 0 rs last).mode.value = .text "user")
    (stays : (summary 0 rs last).closed = false) (twin : last.network.Twin m) (hm : m.Proper) :
    (last.session? 0).all (·.closed) = false ∧
      ∃ d, m.device? uid = some d ∧ last.Twin 0 (opened m d) := by
  obtain ⟨st, hst, huid⟩ := Option.map_eq_some_iff.1 ready.device
  rw [Engine.getElem?_standings] at hst
  obtain ⟨s₀, hs₀, rfl⟩ := Option.map_eq_some_iff.1 hst
  obtain ⟨s, hs, settled⟩ := ready.punctual.exists_polled now hs₀
  rw [summary] at mode stays
  dsimp only at mode stays
  rw [hs, Option.getD_some] at mode stays
  obtain ⟨d, found, suits⟩ :=
    ready.tidy.poll.coherent.suits (Engine.getElem?_standings_of_session? hs) stays
  have place : s.standing.place = {} := suits.place.eq_user mode
  have device : s.standing.uid = Text.trim uid := by rw [settled, Standing.uid_settled, huid]
  rw [device, Engine.network_poll] at found
  have there := twin.devices (Text.trim uid)
  rw [found] at there
  cases hd' : m.devices.get? (Text.trim uid) with
  | none =>
    rw [hd'] at there
    cases there
  | some d' =>
    refine ⟨?_, d', hd', twin, ?_⟩
    · rw [hs₀, Option.all_some, ← Engine.closed_of_poll hs₀ hs]
      exact stays
    · have fresh : (opened m d').standings[0]? =
          some (Session.start d'.uid d'.kind.name d'.hostname).standing := rfl
      rw [Engine.getElem?_standings_of_session? hs₀, fresh]
      refine .some ?_
      rw [← settled, Standing.settled_of_deadline rfl]
      refine ⟨?_, place.symm, stays.symm, ?_⟩
      · exact (hm _ _ hd').uid.trans device.symm
      · rw [settled, Standing.deadline_settled]
        rfl

/-! ## Scripts in two parts -/

/-- The second part of a script may be run on a twin of the network that the first part left. -/
theorem runScript_append {clock₁ clock₂ : Nat → Double} {d : Device} {c₁ : List Value}
    {r₁ : ScriptResult} (steady : Steady clock) (steady₁ : Steady clock₁) (steady₂ : Steady clock₂)
    (hs : n.Storable) (ht : n.Typed) (hm : m.Storable) (hm' : m.Typed)
    (found : n.device? uid = some d)
    (ran : (runScript clock₁ n uid (.list c₁)).1 = .ok r₁) (mode : r₁.mode.value = .text "user")
    (stays : r₁.closed = false) (twin : r₁.network.Twin m) (c₂ : List Value) :
    ∃ d', m.device? uid = some d' ∧
      Matching (fun r r₂ : ScriptResult => r₂.mode = r.mode ∧ r₂.closed = r.closed ∧
          r₂.network.toDocument = r.network.toDocument ∧
          redact (recalled clock 0 (c₁ ++ c₂) 0 (opened n d)) (r.results.map resultDocument) =
            redact (recalled clock₁ 0 c₁ 0 (opened n d)) (r₁.results.map resultDocument) ++
              redact (recalled clock₂ 0 c₂ 0 (opened m d')) (r₂.results.map resultDocument))
        (runScript clock n uid (.list (c₁ ++ c₂))).1 (runScript clock₂ m uid (.list c₂)).1 := by
  have ready := ready_opened hs ht found clock
  have ready₁ := ready_opened hs ht found clock₁
  have self : (opened n d).Twin 0 (opened n d) := ⟨.refl n, .some (Standing.Twin.refl _).settled⟩
  -- the first part comes to the same, whichever clock it runs by
  have first := agree_runCommands steady steady₁ c₁ self ready ready₁
  rw [runScript_list clock₁ found] at ran
  obtain ⟨out, hran, rfl⟩ := map_eq_ok_iff.1 ran
  generalize hx : runCommands clock 0 c₁ 0 (opened n d) = x at first
  generalize hy : runCommands clock₁ 0 c₁ 0 (opened n d) = y at first hran mode stays twin
  cases first with
  | error f _ _ => cases hran
  | @ok rs rs₁ last last₁ _ _ results left _ _ ended now =>
    obtain rfl : rs₁ = out := Except.ok.inj hran
    have network : last₁.network.Twin m := by
      rw [← Engine.network_poll last₁ 0]
      exact twin
    obtain ⟨hopen, d', found', fresh⟩ :=
      twin_opened ended now mode stays network hm.proper
    have run : Ran clock 0 c₁ 0 (opened n d) rs last :=
      ran_of_open hx (left.all_closed.symm.trans hopen)
    have start : last.Twin 0 (opened m d') := left.trans fresh
    -- the second part starts alike in the session that goes on and in the new one
    have second := agree_runCommands steady steady₂ c₂ start (run.ready steady ready)
      (ready_opened hm hm' found' clock₂)
    refine ⟨d', found', ?_⟩
    rw [runScript_list clock found, runScript_list clock₂ found', run.runCommands_append,
      run.recalled_append]
    generalize runCommands clock 0 c₂ (0 + c₁.length) last = x at second
    generalize runCommands clock₂ 0 c₂ 0 (opened m d') = y at second
    cases second with
    | error f _ _ => exact .error f
    | @ok rs' rs₂ _ _ _ _ results' left' ended now ended' now' =>
      obtain ⟨mode, closed, document⟩ :=
        summary_of_twin (rs ++ rs') rs₂ left' ended now ended' now'
      refine .ok ⟨mode, closed, document, ?_⟩
      change redact _ ((rs ++ rs').map resultDocument) =
        redact _ (rs₁.map resultDocument) ++ redact _ (rs₂.map resultDocument)
      rw [List.map_append, redact_append (by rw [length_recalled, List.length_map, run.length])]
      exact congrArg₂ _ results.symm results'.symm

/-! ## Answers -/

/-- Which commands of a script on a device of a document print the history of their session. -/
def histories (clock : Nat → Double) (doc uid : Value) (cs : List Value) : List Bool :=
  match (Schema.load doc).bind fun n => uid.line.bind (scriptEngine n).openSession with
  | .ok (id, e) => recalled clock id cs 0 e
  | .error _ => []

theorem histories_eq {doc name : Value} {d : Device} (loaded : Schema.load doc = .ok n)
    (named : name.line = .ok uid) (found : n.device? uid = some d) (clock : Nat → Double)
    (cs : List Value) : histories clock doc name cs = recalled clock 0 cs 0 (opened n d) := by
  have opens : ((Schema.load doc).bind fun n => name.line.bind (scriptEngine n).openSession) =
      .ok (0, opened n d) := by
    rw [loaded, named]
    change (scriptEngine n).openSession uid = _
    rw [openSession_scriptEngine, Network.succeeds_device found]
    rfl
  rw [histories, opens]

/-- An answer is that of a script on the network of the document. -/
theorem runDevice_eq {log : Log} {doc name : Value} (loaded : Schema.load doc = .ok n)
    (named : name.line = .ok uid) (clock : Nat → Double) (commands : Value) :
    (runDevice clock log doc name commands).1 =
      (runScript clock n uid commands).1.map scriptDocument := by
  have there : ((Schema.load doc).bind fun n => name.line.map fun uid => (n, uid)) =
      .ok (n, uid) := by
    rw [loaded, named]
    rfl
  rw [runDevice, there]
  dsimp only
  cases (runScript clock n uid commands).1 with
  | error f => rfl
  | ok r => rfl

theorem device_of_runScript {commands : Value} {r : ScriptResult}
    (h : (runScript clock n uid commands).1 = .ok r) : ∃ d, n.device? uid = some d := by
  cases hd : n.device? uid with
  | some d => exact ⟨d, rfl⟩
  | none =>
    rw [runScript, openSession_scriptEngine, Network.device, hd] at h
    cases h

/-- The field of the two records is the same. -/
def SamePart (name : String) (a b : Value) : Prop :=
  ∃ v, a.part? name = some v ∧ b.part? name = some v

/-- The answer of a script is that of its second part, with the results of its first part put before
the others.  Outputs are left out at the places that are marked. -/
structure Joins (marks marks₁ marks₂ : List Bool) (first whole second : Value) : Prop where
  topology : SamePart "topology" whole second
  mode : SamePart "mode" whole second
  closed : SamePart "closed" whole second
  results : ∃ rs rs₁ rs₂, whole.part? "results" = some (.list rs) ∧
    first.part? "results" = some (.list rs₁) ∧ second.part? "results" = some (.list rs₂) ∧
    redact marks rs = redact marks₁ rs₁ ++ redact marks₂ rs₂

theorem part?_scriptDocument (r : ScriptResult) :
    (scriptDocument r).part? "results" = some (.list (r.results.map resultDocument)) ∧
      (scriptDocument r).part? "mode" = some r.mode.value ∧
      (scriptDocument r).part? "closed" = some (.bool r.closed) ∧
      (scriptDocument r).part? "topology" = some r.network.toDocument := by
  have part : ∀ {name : String} {v : Value}, Index.find name
      [("results", .list (r.results.map resultDocument)), ("transcript", .texts r.transcript),
        ("mode", r.mode.value), ("closed", .bool r.closed),
        ("topology", r.network.toDocument)] = some v → (scriptDocument r).part? name = some v :=
    fun hv => Value.part?_record (by simp) hv
  exact ⟨part rfl, part rfl, part rfl, part rfl⟩

/-- A script that ends in user mode, with its session still open, can be cut in two.  Whatever
commands come after it, executing them with it answers as executing them by themselves on the
topology that it answers with: with the same topology, mode and closed flag, and with its own
results before the others; or both end in the same fault.  Only the histories that sessions print
are different. -/
theorem runDevice_append {clock clock₁ clock₂ : Nat → Double} {log log₁ log₂ : Log}
    {doc uid first topology : Value} {t : Schema.TopologyDoc} {c₁ : List Value}
    (steady : Steady clock) (steady₁ : Steady clock₁) (steady₂ : Steady clock₂)
    (accepted : Schema.topologyDoc doc = .ok t) (trimmed : t.HasTrimmedEnds)
    (ran : (runDevice clock₁ log₁ doc uid (.list c₁)).1 = .ok first)
    (stays : first.part? "closed" = some (.bool false))
    (mode : first.part? "mode" = some (.text "user"))
    (checkpoint : first.part? "topology" = some topology) (c₂ : List Value) :
    Matching
      (Joins (histories clock doc uid (c₁ ++ c₂)) (histories clock₁ doc uid c₁)
        (histories clock₂ topology uid c₂) first)
      (runDevice clock log doc uid (.list (c₁ ++ c₂))).1
      (runDevice clock₂ log₂ topology uid (.list c₂)).1 := by
  obtain ⟨n, name, r₁, e, loaded, named, hrun, rfl⟩ := runDevice_eq_ok ran
  obtain ⟨results₁, part_mode, part_closed, part_topology⟩ := part?_scriptDocument r₁
  obtain rfl := Option.some.inj (part_topology.symm.trans checkpoint)
  have ends : r₁.mode.value = .text "user" := Option.some.inj (part_mode.symm.trans mode)
  have isOpen : r₁.closed = false :=
    Value.bool.inj (Option.some.inj (part_closed.symm.trans stays))
  have hs : n.Storable := Schema.storable_load loaded
  have ht : n.Typed := Schema.typed_load loaded
  -- the topology is loaded as a twin of the network that the first part left
  obtain ⟨hs₁, ht₁, links⟩ := network_runScript hs ht hrun
  have loopless : r₁.network.Loopless :=
    (Schema.loopless_load accepted trimmed loaded).congr links
  obtain ⟨m, reloaded, twin⟩ := Schema.exists_twin_load hs₁ ht₁ loopless
  have first : (runScript clock₁ n name (.list c₁)).1 = .ok r₁ := congrArg Prod.fst hrun
  obtain ⟨d, found⟩ := device_of_runScript first
  obtain ⟨d', found', joined⟩ := runScript_append steady steady₁ steady₂ hs ht
    (Schema.storable_load reloaded) (Schema.typed_load reloaded) found first ends isOpen twin c₂
  rw [runDevice_eq loaded named, runDevice_eq reloaded named, histories_eq loaded named found,
    histories_eq loaded named found, histories_eq reloaded named found']
  refine joined.map fun r r₂ ⟨mode, closed, document, results⟩ => ?_
  obtain ⟨whole, whole_mode, whole_closed, whole_topology⟩ := part?_scriptDocument r
  obtain ⟨second, second_mode, second_closed, second_topology⟩ := part?_scriptDocument r₂
  rw [mode] at second_mode
  rw [closed] at second_closed
  rw [document] at second_topology
  exact ⟨⟨_, whole_topology, second_topology⟩, ⟨_, whole_mode, second_mode⟩,
    ⟨_, whole_closed, second_closed⟩, _, _, _, whole, results₁, second, results⟩

/-- A switch is configured, and then looked at. -/
theorem runDevice_append_interfaces :
    let doc : Value := .object
      [("devices", .list
        [.object [("id", .text "S1"), ("kind", .text "SWITCH_L2")],
          .object [("id", .text "P1"), ("kind", .text "PC")]]),
       ("links", .list [.object [("sourceId", .text "S1"), ("targetId", .text "P1")]])]
    let clock : Nat → Double := fun _ => Double.zero
    let c₁ : List Value := [.text "enable", .text "conf t", .text "interface g0/2",
      .text "interface g0/1", .text "end", .text "disable"]
    let c₂ : List Value := [.text "enable", .text "show history", .text "show interfaces"]
    ∃ t first topology, Schema.topologyDoc doc = .ok t ∧ t.HasTrimmedEnds ∧
      (runDevice clock freshLog doc (.text "S1") (.list c₁)).1 = .ok first ∧
      first.part? "closed" = some (.bool false) ∧ first.part? "mode" = some (.text "user") ∧
      first.part? "topology" = some topology ∧
      Matching
        (Joins (histories clock doc (.text "S1") (c₁ ++ c₂)) (histories clock doc (.text "S1") c₁)
          (histories clock topology (.text "S1") c₂) first)
        (runDevice clock freshLog doc (.text "S1") (.list (c₁ ++ c₂))).1
        (runDevice clock freshLog topology (.text "S1") (.list c₂)).1 := by
  intro doc clock c₁ c₂
  have fits : ∃ t, Schema.topologyDoc doc = .ok t ∧ t.HasTrimmedEnds := by
    refine ⟨_, rfl, ?_⟩
    decide +kernel
  have answers : (runDevice clock freshLog doc (.text "S1") (.list c₁)).1.isOk = true := by
    decide +kernel
  have parts : ((runDevice clock freshLog doc (.text "S1") (.list c₁)).1.map fun first =>
      (first.part? "closed", first.part? "mode", (first.part? "topology").isSome)) =
      .ok (some (.bool false), some (.text "user"), true) := by
    decide +kernel
  obtain ⟨t, accepted, trimmed⟩ := fits
  obtain ⟨first, ran⟩ := isOk_iff.1 answers
  rw [ran] at parts
  obtain ⟨stays, parts⟩ := Prod.mk.inj (Except.ok.inj parts)
  obtain ⟨mode, there⟩ := Prod.mk.inj parts
  obtain ⟨topology, checkpoint⟩ := Option.isSome_iff_exists.1 there
  have steady : Steady clock := steady_const false 0
  exact ⟨t, first, topology, accepted, trimmed, ran, stays, mode, checkpoint,
    runDevice_append steady steady steady accepted trimmed ran stays mode checkpoint c₂⟩

end Service

end NetLab
