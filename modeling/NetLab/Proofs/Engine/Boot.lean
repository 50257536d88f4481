import NetLab.Proofs.Engine.Meaning

set_option autoImplicit false

/-!
# Boots that are due

Where devices boot at once, a boot that a line starts is due when the session is looked at next: by
then no less time has passed, if the times at which lines are given never go back.  So every line
but the one that started the boot finds the session settled.
-/

namespace NetLab

/-! ## Time -/

/-- Adding no time to a time that has come leaves a time that has come. -/
theorem Double.add_zero_le {a b : Double} (h : a.le b = true) : (a.add zero).le b = true := by
  cases a with
  | undefined => cases h
  | infinite n => exact h
  | finite n u =>
    by_cases hu : u = 0
    · subst hu
      have zero_left : ∀ m : Bool, Double.le (.finite m 0) b = Double.le (.finite false 0) b := by
        intro m
        cases b <;> simp [Double.le, Double.signed]
      have sum : (finite n 0).add zero = finite (n && false) 0 := by simp [Double.add, zero]
      rw [sum, zero_left, ← zero_left n]
      exact h
    · have sum : (finite n u).add zero = finite n u := by simp [Double.add, zero, hu]
      rw [sum]
      exact h

/-- The times never go back, as those of a monotonic clock do not. -/
def Steady (clock : Nat → Double) : Prop := ∀ j k, j ≤ k → (clock j).le (clock k) = true

theorem steady_const (n : Bool) (units : Nat) : Steady fun _ => .finite n units := by
  intro j k _
  simp [Double.le]

/-! ## Sessions -/

namespace Standing

/-- Where a session stands once its device has booted. -/
def settled (s : Standing) : Standing := if s.deadline.isSome then s.boot else s

variable {s : Standing}

@[simp] theorem uid_settled : s.settled.uid = s.uid := by
  rw [settled]
  split <;> rfl

@[simp] theorem closed_settled : s.settled.closed = s.closed := by
  rw [settled]
  split <;> rfl

@[simp] theorem deadline_settled : s.settled.deadline = none := by
  rw [settled]
  split
  · rfl
  · next h => simpa using h

theorem settled_of_deadline (h : s.deadline = none) : s.settled = s := by
  rw [settled, h]
  rfl

end Standing

/-- A line starts a boot, ends one, or leaves the one that is under way. -/
theorem Effect.deadline {t : Timing} {s s' : Scene} (h : Effect t s s') :
    s'.standing.deadline = s.standing.deadline ∨
      s'.standing.deadline = some (t.now.add t.bootDelay) ∨ s'.standing.deadline = none := by
  cases h with
  | reload => exact Or.inr (Or.inl rfl)
  | close _ => exact Or.inr (Or.inr rfl)
  | _ => exact Or.inl rfl

/-- No line moves a session to another device. -/
theorem Effect.uid {t : Timing} {s s' : Scene} (h : Effect t s s') :
    s'.standing.uid = s.standing.uid := by
  cases h <;> rfl

namespace Engine

variable {e : Engine} {id : Nat}

/-- A line in an open session has one effect on where the polled session stands. -/
theorem exists_effect {s : Session} (hs : e.session? id = some s) (hopen : s.closed = false)
    (line : String) : ∃ scene,
      Effect ⟨e.clock, e.bootDelay⟩ ⟨e.network, pollStanding e.clock s.standing⟩ scene ∧
        (e.execute id line).2.standings[id]? = some scene.standing := by
  obtain ⟨scene, result, shown⟩ := execute_result line hs hopen
  have there := (List.getElem?_eq_some_iff.1 (getElem?_standings_of_session? hs)).1
  exact ⟨scene, result.effect, by rw [shown.standings, List.getElem?_set_self there]⟩

/-! ## On which device a session is -/

theorem uid_poll (e : Engine) (id : Nat) :
    (e.poll id).standings[id]?.map Standing.uid = e.standings[id]?.map Standing.uid := by
  cases hs : e.session? id with
  | none => rw [poll_of_none hs]
  | some s =>
    rw [standings_poll hs, getElem?_polled hs, getElem?_standings_of_session? hs, Option.map_some,
      Option.map_some, pollStanding]
    split <;> rfl

theorem uid_execute (e : Engine) (id : Nat) (line : String) :
    (e.execute id line).2.standings[id]?.map Standing.uid =
      e.standings[id]?.map Standing.uid := by
  obtain hall | ⟨s, hs, hopen⟩ := closed_or_open e id
  · rw [execute_of_closed hall]
  · obtain ⟨scene, effect, shown⟩ := exists_effect hs hopen line
    have polled : (pollStanding e.clock s.standing).uid = s.standing.uid := by
      rw [pollStanding]
      split <;> rfl
    rw [shown, getElem?_standings_of_session? hs, Option.map_some, Option.map_some, effect.uid,
      ← polled]

/-- A session stays on its device, whatever is given to it as a line. -/
theorem uid_executeValue (e : Engine) (id : Nat) (line : Value) :
    (e.executeValue id line).2.standings[id]?.map Standing.uid =
      e.standings[id]?.map Standing.uid := by
  rw [executeValue]
  split
  · exact uid_execute e id _
  · split
    · exact uid_poll e id
    · exact uid_execute e id _

/-! ## How long devices take to boot -/

theorem bootDelay_accept (e : Engine) (id : Nat) (c : Console) :
    (e.accept id c).bootDelay = e.bootDelay :=
  tellAll_eq_of_tell (fun _ _ => rfl) _ c.notices

theorem bootDelay_ask (e : Engine) (q : Question) : (e.ask q).bootDelay = e.bootDelay := by
  rw [ask]
  split <;> rfl

theorem bootDelay_finishLine (e : Engine) (id : Nat) (s : Session) (line output : String) :
    (e.finishLine id s line output).2.bootDelay = e.bootDelay := by
  rw [finishLine]
  dsimp only
  split <;> split <;> simp [bootDelay_ask, setSession, tell]

theorem bootDelay_carryOut (e : Engine) (id : Nat) (s : Session) (line : String) :
    (e.carryOut id s line).2.bootDelay = e.bootDelay := by
  rw [carryOut_eq]
  cases (e.console (s.enterLine line)).carryOut ⟨e.clock, e.bootDelay⟩
      (Command.meaning s.mode (Text.words line)) with
  | failed f c => exact bootDelay_accept _ id c
  | refused r c => exact (bootDelay_finishLine _ _ _ _ _).trans (bootDelay_accept _ id c)
  | done output c =>
    rw [conclude]
    split
    · exact bootDelay_accept _ id c
    · exact (bootDelay_finishLine _ _ _ _ _).trans (bootDelay_accept _ id c)

/-- No line changes how long devices take to boot. -/
theorem bootDelay_execute (e : Engine) (id : Nat) (line : String) :
    (e.execute id line).2.bootDelay = e.bootDelay := by
  have polled : (e.poll id).bootDelay = e.bootDelay := bootDelay_poll e id
  have executed := executes e id line
  generalize e.execute id line = result at executed
  cases executed with
  | closed _ => rfl
  | booting _ _ _ => exact polled
  | lostMode _ _ _ _ => exact polled
  | blank _ _ => exact polled
  | taken _ _ => exact (bootDelay_carryOut _ _ _ _).trans polled

/-! ## Punctual engines -/

/-- Devices boot at once, and a boot of the session that is under way is due at the time of the line
at place `k` and at the times of all lines after it. -/
structure Punctual (clock : Nat → Double) (id k : Nat) (e : Engine) : Prop where
  instant : e.bootDelay = Double.zero
  due : ∀ s, e.standings[id]? = some s → ∀ t, s.deadline = some t →
    ∀ j, k ≤ j → t.le (clock j) = true

namespace Punctual

variable {clock : Nat → Double} {k : Nat}

theorem at_clock (h : e.Punctual clock id k) (now : Double) :
    ({ e with clock := now } : Engine).Punctual clock id k := ⟨h.instant, h.due⟩

theorem pollStanding_eq (h : e.Punctual clock id k) (now : e.clock = clock k) {s : Standing}
    (hs : e.standings[id]? = some s) : pollStanding e.clock s = s.settled := by
  rw [pollStanding, Standing.settled]
  cases hd : s.deadline with
  | none => rfl
  | some t =>
    have due : t.le e.clock = true := by
      rw [now]
      exact h.due s hs t hd k (Nat.le_refl k)
    rw [Option.any_some, if_pos due]
    rfl

/-- A session that is looked at is settled. -/
theorem standing_poll (h : e.Punctual clock id k) (now : e.clock = clock k) :
    (e.poll id).standings[id]? = e.standings[id]?.map Standing.settled := by
  cases hs : e.session? id with
  | none => rw [poll_of_none hs, getElem?_standings, hs, Option.map_none, Option.map_none]
  | some s =>
    have hst : e.standings[id]? = some s.standing := getElem?_standings_of_session? hs
    rw [standings_poll hs, getElem?_polled hs, hst, Option.map_some, h.pollStanding_eq now hst]

theorem exists_polled (h : e.Punctual clock id k) (now : e.clock = clock k) {s₀ : Session}
    (hs₀ : e.session? id = some s₀) :
    ∃ s, (e.poll id).session? id = some s ∧ s.standing = s₀.standing.settled := by
  have polled := h.standing_poll now
  rwa [getElem?_standings_of_session? hs₀, getElem?_standings, Option.map_some,
    Option.map_eq_some_iff] at polled

/-- A line may start a boot, but no boot that is not due when the next line is given. -/
theorem execute (h : e.Punctual clock id k) (now : e.clock = clock k) (steady : Steady clock)
    (line : String) : (e.execute id line).2.Punctual clock id (k + 1) where
  instant := (bootDelay_execute e id line).trans h.instant
  due := by
    obtain hall | ⟨s, hs, hopen⟩ := closed_or_open e id
    · rw [execute_of_closed hall]
      exact fun s hs t ht j hj => h.due s hs t ht j (Nat.le_of_succ_le hj)
    obtain ⟨scene, effect, shown⟩ := exists_effect hs hopen line
    intro st hget t ht j hj
    rw [shown] at hget
    obtain rfl := Option.some.inj hget
    obtain same | started | ended := effect.deadline
    · -- the session was settled before the line was carried out
      change scene.standing.deadline = (pollStanding e.clock s.standing).deadline at same
      rw [ht, h.pollStanding_eq now (getElem?_standings_of_session? hs),
        Standing.deadline_settled] at same
      cases same
    · obtain rfl := Option.some.inj (ht.symm.trans started)
      rw [now, h.instant]
      exact Double.add_zero_le (steady k j (Nat.le_of_succ_le hj))
    · rw [ht] at ended
      cases ended

theorem poll (h : e.Punctual clock id k) (now : e.clock = clock k) :
    (e.poll id).Punctual clock id k where
  instant := (bootDelay_poll e id).trans h.instant
  due := by
    intro s hs t ht
    rw [h.standing_poll now] at hs
    obtain ⟨s₀, -, rfl⟩ := Option.map_eq_some_iff.1 hs
    rw [Standing.deadline_settled] at ht
    cases ht

theorem later {k' : Nat} (h : e.Punctual clock id k) (hk : k ≤ k') : e.Punctual clock id k' :=
  ⟨h.instant, fun s hs t ht j hj => h.due s hs t ht j (Nat.le_trans hk hj)⟩

theorem executeValue (h : e.Punctual clock id k) (now : e.clock = clock k) (steady : Steady clock)
    (line : Value) : (e.executeValue id line).2.Punctual clock id (k + 1) := by
  rw [Engine.executeValue]
  split
  · exact h.execute now steady _
  · split
    · exact (h.poll now).later (Nat.le_succ k)
    · exact h.execute now steady _

end Punctual

end Engine

end NetLab
