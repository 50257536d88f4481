import NetLab.Proofs.Console.Nested
import NetLab.Proofs.Engine.Answer
import NetLab.Proofs.Service.Script

set_option autoImplicit false

/-!
# Scripts are answered

Once a document loads and has the device, a script of texts comes to its results, and every line of
a session comes to a reply, unless a line sets the access VLAN of an interface whose name ends in a
number that is too long to be read.  That fault is the only one as long as no line has more levels
of `do` than a call stack holds (`Command.IsShallow`).  Of a line with more levels nothing is said:
here it is carried out as any other, but where each level is a call the stack may end before it.
-/

namespace NetLab.Service

variable {clock : Nat → Double} {n : Network} {uid : String}

/-- A script in a tidy engine fails for nothing but a number that is too long. -/
theorem runCommands_eq_error {id k : Nat} {e : Engine} {cs : List String} {f : Fault}
    (he : e.Tidy) (h : (runCommands clock id (cs.map .text) k e).1 = .error f) :
    ∃ digits, Numeral.maxDigits < digits ∧ f = .longNumeral digits := by
  induction cs generalizing k e with
  | nil => cases h
  | cons c cs ih =>
    have ready : ({ e with clock := clock k } : Engine).Tidy := he.at_clock _
    have typed : ({ e with clock := clock k } : Engine).executeValue id (.text c) =
        ({ e with clock := clock k } : Engine).execute id c := rfl
    rw [List.map_cons, runCommands, typed] at h
    cases hresult : ({ e with clock := clock k } : Engine).execute id c with
    | mk out next =>
      have tidy : next.Tidy := by
        rw [show next = (({ e with clock := clock k } : Engine).execute id c).2 by rw [hresult]]
        exact ready.execute c
      rw [hresult] at h
      cases out with
      | error g =>
        obtain ⟨digits, long, rfl⟩ := ready.execute_eq_error_iff.1
          (show (({ e with clock := clock k } : Engine).execute id c).1 = .error g by rw [hresult])
        cases h
        exact ⟨digits, Engine.lt_of_overlong? long, rfl⟩
      | ok r =>
        dsimp only at h
        split at h
        · cases h
        · split at h
          · next g last hrest =>
            cases h
            exact ih tidy (by rw [hrest])
          · cases h

/-- A script of texts on a device of a storable and typed network is answered, or it reads a number
that is too long. -/
theorem runScript_answers (clock : Nat → Double) {d : Device} (hs : n.Storable) (ht : n.Typed)
    (found : n.device? uid = some d) (cs : List String) :
    Succeeds (runScript clock n uid (.texts cs)).1 ∨ ∃ digits, Numeral.maxDigits < digits ∧
      (runScript clock n uid (.texts cs)).1 = .error (.longNumeral digits) := by
  have opens : Succeeds ((scriptEngine n).openSession uid) :=
    succeeds_bind ⟨d, Network.succeeds_device found⟩ fun d _ => succeeds_pure _
  obtain ⟨⟨id, e⟩, hopened⟩ := opens
  have tidy : e.Tidy := (tidy_scriptEngine hs ht).openSession hopened
  have items : (Value.texts cs).items = .ok (cs.map .text) := rfl
  rw [runScript, hopened]
  dsimp only
  rw [items]
  dsimp only
  cases hran : runCommands clock id (cs.map .text) 0 e with
  | mk out last =>
    cases out with
    | ok results => exact Or.inl (succeeds_ok _)
    | error f =>
      obtain ⟨digits, long, rfl⟩ := runCommands_eq_error (f := f) tidy (by rw [hran])
      exact Or.inr ⟨digits, long, rfl⟩

/-- Over a document that loads, a line of a session ends in a fault exactly where it sets an access
VLAN by the name of an interface that ends in a number too long to be read; and a script on a device
that is there is answered or comes to such a line.  Neither this line nor one before it has more
levels of `do` than a call stack holds. -/
theorem answers_of_load {doc : Value} (loaded : Schema.load doc = .ok n) :
    (∀ (e : Engine) (acts : List Engine.Act) (id : Nat) (line : String) (f : Fault),
      e.network = n → e.sessions = [] →
        (∀ i text, .line i text ∈ acts → Command.IsShallow text) → Command.IsShallow line →
          (((e.run acts).execute id line).1 = .error f ↔
            ∃ digits, (e.run acts).overlong? id line = some digits ∧ f = .longNumeral digits)) ∧
    ∀ (clock : Nat → Double) (log : Log) (uid : String) (d : Device) (cs : List String),
      n.device? uid = some d → (∀ c ∈ cs, Command.IsShallow c) →
        Succeeds (runDevice clock log doc (.text uid) (.texts cs)).1 ∨
          ∃ digits, Numeral.maxDigits < digits ∧
            (runDevice clock log doc (.text uid) (.texts cs)).1 =
              .error (.longNumeral digits) := by
  have hs : n.Storable := Schema.storable_load loaded
  have ht : n.Typed := Schema.typed_load loaded
  constructor
  · intro e acts id line f network fresh _ _
    have start : e.Tidy := .of_no_session (network ▸ hs) (network ▸ ht) fresh
    exact (start.run acts).execute_eq_error_iff
  · intro clock log uid d cs found _
    have ran := runScript_answers clock hs ht found cs
    have named : ((Schema.load doc).bind fun n => (Value.text uid).line.map fun uid => (n, uid)) =
        .ok (n, uid) := by
      rw [loaded]
      rfl
    rw [runDevice, named]
    dsimp only
    generalize runScript clock n uid (.texts cs) = result at ran
    obtain ⟨out, e⟩ := result
    cases out with
    | ok r => exact Or.inl (succeeds_ok _)
    | error f =>
      obtain ⟨r, hr⟩ | ⟨digits, long, hf⟩ := ran
      · cases hr
      · obtain rfl := Except.error.inj hf
        exact Or.inr ⟨digits, long, rfl⟩

/-- The access VLAN of a port whose number is short is set. -/
theorem answers_of_load_access_vlan :
    let doc : Value := .object
      [("devices", .list [.object [("id", .text "S1"), ("kind", .text "SWITCH_L2")]]),
       ("links", .list [])]
    let acts : List Engine.Act := [.opens "S1", .line 0 "enable", .line 0 "conf t",
      .line 0 "interface g0/1"]
    let line := "switchport access vlan 10"
    let commands := ["enable", "conf t", "interface g0/1", line]
    ∃ n d, Schema.load doc = .ok n ∧ n.device? "S1" = some d ∧
      (∀ i text, .line i text ∈ acts → Command.IsShallow text) ∧ Command.IsShallow line ∧
      (∀ c ∈ commands, Command.IsShallow c) ∧
      ((scriptEngine n).run acts).overlong? 0 line = none ∧
      (∀ f, (((scriptEngine n).run acts).execute 0 line).1 ≠ .error f) ∧
      (Succeeds (runDevice (fun _ => Double.zero) freshLog doc (.text "S1") (.texts commands)).1 ∨
        ∃ digits, Numeral.maxDigits < digits ∧
          (runDevice (fun _ => Double.zero) freshLog doc (.text "S1") (.texts commands)).1 =
            .error (.longNumeral digits)) := by
  intro doc acts line commands
  obtain ⟨n, loaded⟩ : ∃ n, Schema.load doc = .ok n := ⟨_, rfl⟩
  have there : ((Schema.load doc).toOption.bind fun n => n.device? "S1").isSome = true := by
    decide +kernel
  have short : ((Schema.load doc).map fun n =>
      ((scriptEngine n).run acts).overlong? 0 line) = .ok none := by decide +kernel
  rw [loaded] at there short
  obtain ⟨d, found⟩ := Option.isSome_iff_exists.1 there
  have read : ((scriptEngine n).run acts).overlong? 0 line = none := Except.ok.inj short
  have shallow : ∀ c ∈ commands, Command.IsShallow c := fun c hc => by
    have few : ∀ c ∈ commands, (Text.words c).length ≤ Command.maxNesting := by decide +kernel
    exact Command.isShallow_of_length (few c hc)
  have earlier : ∀ i text, .line i text ∈ acts → Command.IsShallow text := fun i text given => by
    refine shallow text ?_
    simp only [acts, List.mem_cons, reduceCtorEq, Engine.Act.line.injEq, false_or,
      List.not_mem_nil, or_false] at given
    obtain ⟨-, rfl⟩ | ⟨-, rfl⟩ | ⟨-, rfl⟩ := given <;> simp [commands]
  have last : Command.IsShallow line := shallow line (by simp [commands])
  obtain ⟨lines, scripts⟩ := answers_of_load loaded
  refine ⟨n, d, loaded, found, earlier, last, shallow, read, fun f failed => ?_,
    scripts _ _ _ d commands found shallow⟩
  obtain ⟨digits, long, -⟩ :=
    (lines (scriptEngine n) acts 0 line f rfl rfl earlier last).1 failed
  rw [read] at long
  cases long

end NetLab.Service
