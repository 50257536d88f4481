import NetLab.Proofs.Console.Answer
import NetLab.Proofs.Engine.Tidy
import NetLab.Proofs.Schema.Load

set_option autoImplicit false

/-!
# Lines are answered

In an engine over a network that was loaded from a document, every line of every session is answered
after every run, but for one slip: a line that sets an access VLAN ends in a fault if the name of the
selected interface ends in more digits than a numeral may have.  The name may have been given by any
line before it.  The calls that `do` nests are taken to fit on the stack.
-/

namespace NetLab.Engine

variable {e : Engine} {id : Nat} {line : String} {s : Session} {f : Fault}

/-- How many digits end the name of the selected interface, if a line reads them and they are more
than a numeral may have. -/
def overlong? (e : Engine) (id : Nat) (line : String) : Option Nat :=
  (e.meaning? id line).bind fun m =>
    (e.taker? id).bind fun s => m.overlong? s.place.interface

/-! ## Sessions of tidy engines -/

/-- A session that is open and has been looked at is one on its device. -/
theorem Tidy.on (h : e.Tidy) (hs : e.session? id = some s) (hopen : s.closed = false)
    (line : String) : ∃ d, (e.console (s.enterLine line)).On d := by
  obtain ⟨d, found, suits⟩ := h.coherent.suits (getElem?_standings_of_session? hs) hopen
  have proper := h.storable.proper _ _ found
  refine ⟨d, h.storable, h.typed, ?_, fun hm => suits.place.interface_eq hm, fun hm => ?_,
    fun hm => suits.place.line_eq hm⟩
  · change e.network.device? s.standing.uid = some d
    rw [Network.device?, proper.trimmed, found]
  · obtain ⟨vlan, current, -⟩ := suits.place.vlan_eq hm
    exact ⟨vlan, current⟩

theorem isKey_of_fits {d : Device} {p : Place} (h : p.Fits d) : p.mode.isKey = true := by
  cases h <;> rfl

/-! ## Faults of lines -/

/-- A line ends in the fault that carrying it out ends in. -/
theorem carryOut_eq_error_iff :
    (e.carryOut id s line).1 = .error f ↔
      ((e.console (s.enterLine line)).carryOut ⟨e.clock, e.bootDelay⟩
        (Command.meaning s.mode (Text.words line))).fault? = some f := by
  rw [carryOut_eq]
  cases (e.console (s.enterLine line)).carryOut ⟨e.clock, e.bootDelay⟩
      (Command.meaning s.mode (Text.words line)) with
  | failed g c => simp [conclude, Outcome.fault?]
  | refused r => simp [conclude, Outcome.fault?]
  | done output c =>
    rw [conclude]
    split
    · simp [Outcome.fault?]
    · simp [Outcome.fault?]

/-- What cannot be read has more digits than a numeral may have. -/
theorem lt_of_overlong? {digits : Nat} (h : e.overlong? id line = some digits) :
    Numeral.maxDigits < digits := by
  obtain ⟨m, -, h⟩ := Option.bind_eq_some_iff.1 h
  obtain ⟨s, -, h⟩ := Option.bind_eq_some_iff.1 h
  exact m.lt_of_overlong? h

theorem overlong?_eq_some {digits : Nat} : e.overlong? id line = some digits ↔
    ∃ s, e.taker? id = some s ∧ Text.trim line ≠ "" ∧
      (Command.meaning s.mode (Text.words (Text.trim line))).overlong? s.place.interface =
        some digits := by
  rw [overlong?, meaning?]
  cases e.taker? id with
  | none => simp
  | some s =>
    by_cases hline : Text.trim line = ""
    · simp [hline]
    · simp [hline]

/-- A line in a tidy engine ends in a fault only where it reads a number that is too long. -/
theorem Tidy.execute_eq_error_iff (h : e.Tidy) :
    (e.execute id line).1 = .error f ↔
      ∃ digits, e.overlong? id line = some digits ∧ f = .longNumeral digits := by
  have taken : ∀ s, e.taker? id = some s → Text.trim line ≠ "" →
      ((e.execute id line).1 = .error f ↔
        ∃ digits, (Command.meaning s.mode (Text.words (Text.trim line))).overlong?
          s.place.interface = some digits ∧ f = .longNumeral digits) := by
    intro s hs hline
    obtain ⟨there, hopen, -, -⟩ := taker?_eq_some.1 hs
    have polled : (e.poll id).Tidy := h.poll
    obtain ⟨d, on⟩ := polled.on there hopen (Text.trim line)
    have fault := Console.fault?_carryOut (t := ⟨e.clock, e.bootDelay⟩) on
      (Text.words (Text.trim line))
    rw [execute_taken hs hline, carryOut_eq_error_iff, clock_poll, bootDelay_poll]
    refine (Eq.congr_left fault).trans ?_
    rw [Option.map_eq_some_iff]
    exact exists_congr fun digits => and_congr_right fun _ => eq_comm
  constructor
  · intro failed
    have executed := executes e id line
    generalize hresult : e.execute id line = result at executed failed
    cases executed with
    | closed _ => cases failed
    | booting _ _ _ => cases failed
    | @lostMode s there hopen lost _ =>
      obtain ⟨d, -, suits⟩ := h.poll.coherent.suits (getElem?_standings_of_session? there) hopen
      have known : s.mode.isKey = true := isKey_of_fits suits.place
      rw [lost] at known
      cases known
    | blank _ _ => cases failed
    | @taken s hs hline =>
      rw [← hresult] at failed
      obtain ⟨digits, long, hf⟩ := (taken s hs hline).1 failed
      exact ⟨digits, overlong?_eq_some.2 ⟨s, hs, hline, long⟩, hf⟩
  · rintro ⟨digits, long, rfl⟩
    obtain ⟨s, hs, hline, long⟩ := overlong?_eq_some.1 long
    exact (taken s hs hline).2 ⟨digits, long, rfl⟩

end NetLab.Engine
