import NetLab.Proofs.Console.Footprint
import NetLab.Proofs.Engine.Coherence
import NetLab.Proofs.Engine.Turn

set_option autoImplicit false

/-!
# Sessions on different devices

Lines given to sessions on two devices may be given in either order.  What one of them writes does
not change how the network looks from the other device, so each comes to the same in both orders
(`Session.upshot_beside`); and the two writes commute, unless both tag a device.  A `ping` prints
the labels of other devices, so its output is excepted, and nothing else of it is.
-/

namespace NetLab

/-! ## One line over two networks -/

/-- The reply without what was printed. -/
def Reply.wordless (r : Reply) : Reply := { r with output := "" }

/-- What a line came to over two networks is the same, and it made one write on both.  What is
printed may be excepted. -/
structure Upshot.Beside (uid : String) (n m : Network) (excepted tags : Prop) (u v : Upshot) :
    Prop where
  reply : ¬ excepted → v.reply = u.reply
  wordless : v.reply.map Reply.wordless = u.reply.map Reply.wordless
  session : v.session = u.session
  wrote : Network.Wrote uid tags n m u.network v.network

/-- Outcomes that are the same come to the same. -/
theorem Outcome.Beside.upshot {n m : Network} {typed : Session} {excepted tags : Prop}
    {o o' : Outcome} (h : o.Beside ⟨n, typed, []⟩ m excepted tags o') (line : String) :
    (o.upshot typed line).Beside typed.uid n m excepted tags (o'.upshot typed line) := by
  cases h with
  | failed f next => exact ⟨fun _ => rfl, rfl, next.session, next.wrote⟩
  | refused r next =>
    rw [Outcome.upshot, Outcome.upshot, next.session]
    exact ⟨fun _ => rfl, rfl, rfl, next.wrote⟩
  | done printed next =>
    rw [Outcome.upshot, Outcome.upshot, next.session]
    split
    · exact ⟨fun no => by rw [printed no], rfl, rfl, next.wrote⟩
    · exact ⟨fun no => by rw [printed no], rfl, rfl, next.wrote⟩

namespace Session

variable {t : Timing} {n m : Network} {p s : Session} {line : String}

/-- What a line means to a session that was looked at, if it is an action. -/
def action? (p : Session) (line : String) : Option Action := (p.meaning? line).bind (·.action?)

/-- A session that was looked at takes a line in the same way over networks that look the same from
its device. -/
theorem taking_beside (same : n.SameFrom p.uid m) (t : Timing) (line : String) :
    (p.taking t n line).Beside p.uid n m (p.action? line = some .ping)
      (p.action? line = some .accessVlan) (p.taking t m line) := by
  have still : ∀ {tags : Prop}, Network.Wrote p.uid tags n m n m :=
    (Network.edited_refl p.uid n m).wrote
  rw [taking, taking]
  split
  · exact ⟨fun _ => rfl, rfl, rfl, still⟩
  · next booted =>
    split
    · exact ⟨fun _ => rfl, rfl, rfl, still⟩
    · next key =>
      split
      · exact ⟨fun _ => rfl, rfl, rfl, still⟩
      · next notBlank =>
        have meant : p.action? line = (Command.meaning p.mode (Text.words line)).action? := by
          simp only [action?, meaning?]
          rw [if_neg (by simp [booted, key, notBlank]), Option.bind_some]
        have carried := Console.carryOut_beside (c := ⟨n, p.enterLine line, []⟩) same t
          (Command.meaning p.mode (Text.words line))
        have upshot := carried.upshot line
        rw [meant]
        exact ⟨upshot.reply, upshot.wordless, upshot.session, upshot.wrote⟩

/-- A line comes to the same over networks that look the same from the device of its session. -/
theorem upshot_beside (same : n.SameFrom s.uid m) (t : Timing) (line : String) :
    (s.upshot t n line).Beside s.uid n m ((s.polled t.now).action? line = some .ping)
      ((s.polled t.now).action? line = some .accessVlan) (s.upshot t m line) := by
  have uid : (s.polled t.now).uid = s.uid := polled_uid
  have taken := taking_beside (p := s.polled t.now) (by rwa [uid]) t line
  rw [uid] at taken
  exact ⟨taken.reply, taken.wordless, taken.session, taken.wrote⟩

end Session

/-! ## Two lines in either order -/

namespace Network

variable {n m n' m' : Network} {uid uid' : String} {tags tags' : Prop}

/-- From another device the network looks as before the write. -/
theorem Wrote.sameFrom (h : Wrote uid tags n m n' m') (apart : Text.trim uid' ≠ Text.trim uid) :
    n.SameFrom uid' n' := by
  obtain ⟨w, hw, -, rfl, -⟩ := h
  exact sameFrom_on hw apart n

/-- The writes of two lines, each of which writes the same before and after the other, lead to one
network, unless both tag a device. -/
theorem Wrote.comm {x y : Network} (apart : Text.trim uid ≠ Text.trim uid')
    (first : Wrote uid tags n m' n' y) (second : Wrote uid' tags' n n' m' x)
    (once : ¬ (tags ∧ tags')) : y = x := by
  obtain ⟨v, hv, vOnce, rfl, rfl⟩ := first
  obtain ⟨w, hw, wOnce, rfl, rfl⟩ := second
  refine (Write.on_comm hv hw apart ?_ n).symm
  by_contra both
  rw [not_or] at both
  exact once ⟨vOnce.resolve_left both.1, wOnce.resolve_left both.2⟩

end Network

namespace Engine

variable {e : Engine} {i j : Nat} {s s' : Session}

/-- Two answers to a line, and the sessions that it leaves, are the same.  What is printed may be
excepted, on the screen and in the answer. -/
structure SameBut (excepted : Prop) (r r' : Except Fault Reply) (x x' : Option Session) : Prop where
  same : ¬ excepted → r' = r ∧ x' = x
  wordless : r'.map Reply.wordless = r.map Reply.wordless
  session : ∃ s : Session, x = some (s.print (answerLines r)) ∧ x' = some (s.print (answerLines r'))

/-- Two lines, each given to a session of its own, may be given in either order. -/
structure Independent (e : Engine) (i j : Nat) (a b : String) : Prop where
  /-- the first line comes to the same before and after the second, but for what a `ping` prints -/
  first : SameBut (e.action? i a = some .ping)
    (e.execute i a).1 ((e.execute j b).2.execute i a).1
    (((e.execute i a).2.execute j b).2.session? i) (((e.execute j b).2.execute i a).2.session? i)
  /-- the second line comes to the same before and after the first, but for what a `ping` prints -/
  second : SameBut (e.action? j b = some .ping)
    (e.execute j b).1 ((e.execute i a).2.execute j b).1
    (((e.execute j b).2.execute i a).2.session? j) (((e.execute i a).2.execute j b).2.session? j)
  /-- the networks are one and the same, unless both lines set an access VLAN -/
  network : ¬ (e.action? i a = some .accessVlan ∧ e.action? j b = some .accessVlan) →
    ((e.execute j b).2.execute i a).2.network = ((e.execute i a).2.execute j b).2.network
  /-- no other session is concerned -/
  others : ∀ k, k ≠ i → k ≠ j →
    ((e.execute i a).2.execute j b).2.session? k = e.session? k ∧
      ((e.execute j b).2.execute i a).2.session? k = e.session? k
  /-- the same sessions stand for their devices -/
  registry : ((e.execute j b).2.execute i a).2.registry = ((e.execute i a).2.execute j b).2.registry

/-- What comes to the same leaves the same session. -/
theorem sameBut_of_beside {n m : Network} {uid : String} {excepted tags : Prop} {u v : Upshot}
    (h : u.Beside uid n m excepted tags v) :
    SameBut excepted u.reply v.reply (some u.final) (some v.final) where
  same no := ⟨h.reply no, by rw [Upshot.final, Upshot.final, h.reply no, h.session]⟩
  wordless := h.wordless
  session := ⟨u.session, rfl, by rw [Upshot.final, h.session]⟩

theorem action?_of_open (hs : e.session? i = some s) (hopen : s.closed = false) (line : String) :
    e.action? i line = (s.polled e.clock).action? (Text.trim line) := by
  rw [action?, meaning?_of_open hs hopen, Session.action?]

/-- A line that follows one in another session meets the network that this one left. -/
theorem execute_settle (hs : e.session? i = some s) (hopen : s.closed = false) (hi : i ≠ j)
    (line text : String) (u : Upshot) :
    let u' := s.upshot ⟨e.clock, e.bootDelay⟩ u.network (Text.trim line)
    (e.settle j text u).execute i line =
      (u'.reply, (e.settle j text u).settle i (Text.trim line) u') :=
  execute_of_open ((session?_settle_of_ne hi text u).trans hs) hopen line

/-- Two lines, each of which comes to the same over the network that the other one leaves, are
independent. -/
theorem independent_of_beside {a b : String} {u u' v v' : Upshot} (hij : i ≠ j)
    (hs : e.session? i = some s) (hs' : e.session? j = some s')
    (apart : Text.trim s.uid ≠ Text.trim s'.uid)
    (onlyA : e.execute i a = (u.reply, e.settle i (Text.trim a) u))
    (onlyB : e.execute j b = (v.reply, e.settle j (Text.trim b) v))
    (ab : (e.settle i (Text.trim a) u).execute j b =
      (v'.reply, (e.settle i (Text.trim a) u).settle j (Text.trim b) v'))
    (ba : (e.settle j (Text.trim b) v).execute i a =
      (u'.reply, (e.settle j (Text.trim b) v).settle i (Text.trim a) u'))
    (first : u.Beside s.uid e.network v.network (e.action? i a = some .ping)
      (e.action? i a = some .accessVlan) u')
    (second : v.Beside s'.uid e.network u.network (e.action? j b = some .ping)
      (e.action? j b = some .accessVlan) v') : e.Independent i j a b := by
  have there : (e.settle j (Text.trim b) v).session? i = some s :=
    (session?_settle_of_ne hij _ v).trans hs
  have there' : (e.settle i (Text.trim a) u).session? j = some s' :=
    (session?_settle_of_ne hij.symm _ u).trans hs'
  constructor
  · rw [onlyA, onlyB, ab, ba, session?_settle_of_ne hij, session?_settle hs, session?_settle there]
    exact sameBut_of_beside first
  · rw [onlyA, onlyB, ab, ba, session?_settle_of_ne hij.symm, session?_settle hs',
      session?_settle there']
    exact sameBut_of_beside second
  · intro once
    rw [onlyA, onlyB, ab, ba]
    exact first.wrote.comm apart second.wrote once
  · intro k hi hj
    rw [session?_execute_of_ne hj, session?_execute_of_ne hi, session?_execute_of_ne hi,
      session?_execute_of_ne hj]
    exact ⟨rfl, rfl⟩
  · rw [onlyA, onlyB, ab, ba]
    change (e.registry.follow j v.session).follow i u'.session =
      (e.registry.follow i u.session).follow j v'.session
    rw [first.session, second.session, Registry.follow_comm]

/-- Lines that are given to sessions on two devices are independent, whatever the engine has come
to. -/
theorem independent_of_apart (hs : e.session? i = some s) (hs' : e.session? j = some s')
    (hopen : s.closed = false) (hopen' : s'.closed = false)
    (apart : Text.trim s.uid ≠ Text.trim s'.uid) (a b : String) : e.Independent i j a b := by
  have hij : i ≠ j := by
    rintro rfl
    obtain rfl := Option.some.inj (hs.symm.trans hs')
    exact apart rfl
  let t : Timing := ⟨e.clock, e.bootDelay⟩
  have same : ∀ uid, e.network.SameFrom uid e.network := fun uid => Network.sameFrom_refl uid _
  -- neither line changes how the network looks from the device of the other
  have first := s.upshot_beside
    ((s'.upshot_beside (same _) t (Text.trim b)).wrote.sameFrom apart) t (Text.trim a)
  have second := s'.upshot_beside
    ((s.upshot_beside (same _) t (Text.trim a)).wrote.sameFrom apart.symm) t (Text.trim b)
  rw [← action?_of_open hs hopen] at first
  rw [← action?_of_open hs' hopen'] at second
  exact independent_of_beside hij hs hs' apart (execute_of_open hs hopen a)
    (execute_of_open hs' hopen' b) (execute_settle hs' hopen' hij.symm b _ _)
    (execute_settle hs hopen hij a _ _) first second

/-- An open session of an engine that came about by a run stands on a device of the network. -/
theorem trim_uid_of_reachable (h : e.Reachable) (hs : e.session? i = some s)
    (hopen : s.closed = false) : Text.trim s.uid = s.uid := by
  have coherent := h.isCoherent
  obtain ⟨d, found, -⟩ := coherent.suits (getElem?_standings_of_session? hs) hopen
  exact (coherent.proper _ _ found).trimmed

/-- In an engine that came about by a run, lines that are given to open sessions on two devices may
be given in either order. -/
theorem lines_independent (h : e.Reachable) (hs : e.session? i = some s)
    (hs' : e.session? j = some s') (hopen : s.closed = false) (hopen' : s'.closed = false)
    (apart : s.uid ≠ s'.uid) (a b : String) : e.Independent i j a b := by
  have trimmed : Text.trim s.uid ≠ Text.trim s'.uid := by
    rwa [trim_uid_of_reachable h hs hopen, trim_uid_of_reachable h hs' hopen']
  exact independent_of_apart hs hs' hopen hopen' trimmed a b

/-- A router pings another one, which is down and is given a name meanwhile.  What the ping prints
depends on the order; everything else is the same. -/
theorem lines_independent_ping :
    let e := run
      { network := Network.build
          [.addDevice { uid := "R1", kind := .text "ROUTER", address := .text "10.0.0.1" },
            .addDevice { uid := "R2", kind := .text "ROUTER", address := .text "10.0.0.2" },
            .addLink "R1" "R2" .null, .setStatus "R2" (.text "down")]
        bootDelay := usualBootDelay }
      [.opens "R1", .opens "R2", .line 1 "enable", .line 1 "conf t"]
    e.Reachable ∧ e.Independent 0 1 "ping 10.0.0.2" "hostname Edge" ∧
      (e.execute 0 "ping 10.0.0.2").1 ≠
        ((e.execute 1 "hostname Edge").2.execute 0 "ping 10.0.0.2").1 ∧
      ((e.execute 0 "ping 10.0.0.2").2.execute 1 "hostname Edge").2.network =
        ((e.execute 1 "hostname Edge").2.execute 0 "ping 10.0.0.2").2.network := by
  intro e
  have reachable : e.Reachable := ⟨_, _, _, _, _, _, rfl⟩
  have there : (e.session? 0).map (fun s => (s.closed, s.uid)) = some (false, "R1") ∧
      (e.session? 1).map (fun s => (s.closed, s.uid)) = some (false, "R2") := by decide +kernel
  have differ : (e.execute 0 "ping 10.0.0.2").1 ≠
      ((e.execute 1 "hostname Edge").2.execute 0 "ping 10.0.0.2").1 := by decide +kernel
  have once : e.action? 1 "hostname Edge" ≠ some .accessVlan := by decide +kernel
  obtain ⟨s, hs, own⟩ := Option.map_eq_some_iff.1 there.1
  obtain ⟨s', hs', own'⟩ := Option.map_eq_some_iff.1 there.2
  obtain ⟨hopen, huid⟩ := Prod.mk.inj own
  obtain ⟨hopen', huid'⟩ := Prod.mk.inj own'
  have apart : s.uid ≠ s'.uid := by
    rw [huid, huid']
    decide
  have independent := lines_independent reachable hs hs' hopen hopen' apart "ping 10.0.0.2"
    "hostname Edge"
  exact ⟨reachable, independent, differ, (independent.network fun both => once both.2).symm⟩

end Engine

end NetLab
