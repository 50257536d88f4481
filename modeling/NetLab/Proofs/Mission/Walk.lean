import NetLab.Mission.Grade
import NetLab.Proofs.Mission.Check
import NetLab.Proofs.Network.Build

set_option autoImplicit false

/-!
# Walking through a mission

A mission is worked through by grading one step at a time: each grade names the step to try next,
until a step fails or the mission is complete.  The progress of a mission is counted by itself, as
the number of steps that pass before the first that does not.  Both look at the same steps: a walk
from the first step ends where the progress says, after no more grades than there are steps
(`walk_progress`).
-/

namespace NetLab.Mission

variable {m : Mission} {n : Network} {k p calls : Nat} {s : Step} {r : Except Fault Grade}

/-! ## Grades -/

theorem verify_of_step (h : m.steps[k]? = some s) :
    m.verify n k = (s.check n).map fun b => if b then m.passedGrade k else m.failedGrade k := by
  have found : m.step? k = some (k, s) := by
    rw [step?, if_neg (by omega), Int.toNat_natCast, h]
    rfl
  rw [verify, found]
  dsimp only
  cases s.check n with
  | error f => rfl
  | ok b =>
    cases b with
    | true => rfl
    | false => rfl

@[simp] theorem passed_passedGrade : (m.passedGrade k).passed = true := by
  rw [passedGrade]
  split
  · rfl
  · rfl

theorem passedGrade_more (h : k + 1 < m.steps.length) :
    (m.passedGrade k).complete = false ∧ (m.passedGrade k).nextStep = some (k + 1 : Nat) := by
  rw [passedGrade, List.getElem?_eq_getElem h]
  exact ⟨rfl, rfl⟩

theorem complete_passedGrade_last (h : m.steps.length = k + 1) :
    (m.passedGrade k).complete = true := by
  rw [passedGrade, List.getElem?_eq_none (by omega)]

/-! ## Walks -/

/-- No step is graded after this grade: the step failed, or the mission is complete. -/
def Grade.Last (g : Grade) : Prop := g.passed = false ∨ g.complete = true

/-- A walk through a mission from a step, with the number of grades and what came of the last
one. -/
inductive Walk (m : Mission) (n : Network) : Int → Nat → Except Fault Grade → Prop where
  | stop {step : Int} {r : Except Fault Grade} (graded : m.verify n step = r)
      (last : ∀ g, r = .ok g → g.Last) : Walk m n step 1 r
  | next {step after : Int} {g : Grade} {calls : Nat} {r : Except Fault Grade}
      (graded : m.verify n step = .ok g) (more : ¬ g.Last) (named : g.nextStep = some after)
      (rest : Walk m n after calls r) : Walk m n step (calls + 1) r

/-- There is one way to walk. -/
theorem Walk.unique {step : Int} (h : Walk m n step calls r) {calls' : Nat}
    {r' : Except Fault Grade} (h' : Walk m n step calls' r') : calls' = calls ∧ r' = r := by
  induction h generalizing calls' r' with
  | stop graded last =>
    cases h' with
    | stop graded' _ => exact ⟨rfl, graded'.symm.trans graded⟩
    | next graded' more _ _ => exact absurd (last _ (graded.symm.trans graded')) more
  | next graded more named _ ih =>
    cases h' with
    | stop graded' last => exact absurd (last _ (graded'.symm.trans graded)) more
    | next graded' _ named' rest' =>
      obtain rfl := Except.ok.inj (graded.symm.trans graded')
      obtain rfl := Option.some.inj (named.symm.trans named')
      obtain ⟨calls, result⟩ := ih rest'
      exact ⟨congrArg (· + 1) calls, result⟩

/-- A walk from a step that all steps in front of it lead to is the end of one from the start. -/
theorem Walk.from_start (h : Walk m n p calls r) (hp : p < m.steps.length)
    (passed : ∀ k, k < p → m.verify n k = .ok (m.passedGrade k)) : Walk m n 0 (calls + p) r := by
  -- one grade is put in front at a time, so the walk that is lengthened varies
  induction p generalizing calls with
  | zero => exact h
  | succ p ih =>
    obtain ⟨more, named⟩ := passedGrade_more hp
    have longer : Walk m n p (calls + 1) r :=
      .next (passed p (Nat.lt_succ_self p)) (by simp [Grade.Last, more]) named h
    have started := ih longer (by omega) fun k hk => passed k (by omega)
    rwa [Nat.add_right_comm] at started

/-! ## Progress -/

/-- The steps pass up to a number, which is their progress unless looking at that step fails. -/
theorem passing_cases (n : Network) (steps : List Step) :
    ∃ p, (∀ k s, k < p → steps[k]? = some s → s.check n = .ok true) ∧
      (p = steps.length ∧ passing n steps = .ok p ∨
        ∃ s, steps[p]? = some s ∧ (s.check n = .ok false ∧ passing n steps = .ok p ∨
          ∃ f, s.check n = .error f ∧ passing n steps = .error f)) := by
  induction steps with
  | nil => exact ⟨0, nofun, Or.inl ⟨rfl, rfl⟩⟩
  | cons s steps ih =>
    cases hs : s.check n with
    | error f =>
      have fault : passing n (s :: steps) = .error f := by
        rw [passing, hs]
        rfl
      exact ⟨0, nofun, Or.inr ⟨s, rfl, Or.inr ⟨f, hs, fault⟩⟩⟩
    | ok b =>
      cases b with
      | false =>
        have none : passing n (s :: steps) = .ok 0 := by
          rw [passing, hs]
          rfl
        exact ⟨0, nofun, Or.inr ⟨s, rfl, Or.inl ⟨hs, none⟩⟩⟩
      | true =>
        obtain ⟨p, passed, ends⟩ := ih
        have counted : passing n (s :: steps) = (passing n steps).map (· + 1) := by
          rw [passing, hs]
          cases passing n steps <;> rfl
        refine ⟨p + 1, fun k t hk ht => ?_, ?_⟩
        · cases k with
          | zero =>
            obtain rfl : s = t := by simpa using ht
            exact hs
          | succ k => exact passed k t (by omega) (by simpa using ht)
        · rw [counted]
          rcases ends with ⟨rfl, all⟩ | ⟨t, ht, ⟨fails, all⟩ | ⟨f, fault, all⟩⟩
          · rw [all]
            exact Or.inl ⟨rfl, rfl⟩
          · rw [all]
            exact Or.inr ⟨t, by simpa using ht, Or.inl ⟨fails, rfl⟩⟩
          · rw [all]
            exact Or.inr ⟨t, by simpa using ht, Or.inr ⟨f, fault, rfl⟩⟩

/-- What the walk through a mission and its progress say about each other. -/
structure Tallies (m : Mission) (n : Network) (calls : Nat) (r : Except Fault Grade) : Prop where
  bounded : calls ≤ m.steps.length
  /-- looking at the steps fails in one of them if it does in the other -/
  fault : ∀ f, r = .error f ↔ m.progress n = .error f
  complete : (∃ g, r = .ok g ∧ g.complete = true) ↔ m.progress n = .ok m.steps.length
  failed : ∀ g, r = .ok g → g.complete = false → ∃ p, m.progress n = .ok p ∧
    p < m.steps.length ∧ g.passed = false ∧ g.step = p ∧ g.nextStep = some (p : Int)
  /-- the steps before the progress pass, in whatever order they are graded -/
  passed : ∀ p, m.progress n = .ok p → ∀ ks : List Nat, (∀ k ∈ ks, k < p) →
    ∃ gs, (ks.mapM fun k : Nat => m.verify n k) = .ok gs ∧ ∀ g ∈ gs, g.passed = true

/-- Steps that pass one by one pass in any order. -/
theorem passed_mapM (passed : ∀ k, k < p → m.verify n k = .ok (m.passedGrade k)) {ks : List Nat}
    (hks : ∀ k ∈ ks, k < p) :
    ∃ gs, (ks.mapM fun k : Nat => m.verify n k) = .ok gs ∧ ∀ g ∈ gs, g.passed = true := by
  refine ⟨ks.map m.passedGrade, mapM_eq_ok_of_forall fun k hk => passed k (hks k hk), ?_⟩
  intro g hg
  obtain ⟨k, -, rfl⟩ := List.mem_map.1 hg
  exact passed_passedGrade

/-- A walk on which every step passes ends where the grade of the last step completes the
mission. -/
theorem walk_through (length : m.steps.length = k + 1)
    (passed : ∀ i, i < k + 1 → m.verify n i = .ok (m.passedGrade i))
    (all : m.progress n = .ok m.steps.length) :
    Walk m n 0 (1 + k) (.ok (m.passedGrade k)) ∧ Tallies m n (1 + k) (.ok (m.passedGrade k)) := by
  have complete := complete_passedGrade_last length
  have last : Walk m n k 1 (.ok (m.passedGrade k)) :=
    .stop (passed k (Nat.lt_succ_self k)) fun g hg => Or.inr (Except.ok.inj hg ▸ complete)
  refine ⟨last.from_start (by omega) fun i hi => passed i (by omega),
    by omega, fun f => ?_, ⟨fun _ => all, fun _ => ⟨_, rfl, complete⟩⟩,
    fun g hg unfinished => ?_, fun p hp ks hks => ?_⟩
  · rw [all]
    exact ⟨nofun, nofun⟩
  · rw [← Except.ok.inj hg, complete] at unfinished
    cases unfinished
  · obtain rfl := Except.ok.inj (all.symm.trans hp)
    exact passed_mapM (fun i hi => passed i (by omega)) hks

/-- A walk ends at the first step that does not pass. -/
theorem walk_to_failure (short : k < m.steps.length)
    (passed : ∀ i, i < k → m.verify n i = .ok (m.passedGrade i))
    (fails : m.verify n k = .ok (m.failedGrade k)) (counted : m.progress n = .ok k) :
    Walk m n 0 (1 + k) (.ok (m.failedGrade k)) ∧ Tallies m n (1 + k) (.ok (m.failedGrade k)) := by
  have last : Walk m n k 1 (.ok (m.failedGrade k)) :=
    .stop fails fun g hg => Or.inl (by rw [← Except.ok.inj hg]; rfl)
  refine ⟨last.from_start short passed, by omega, fun f => ?_, ⟨?_, fun h => ?_⟩,
    fun g hg _ => ?_, fun p hp ks hks => ?_⟩
  · rw [counted]
    exact ⟨nofun, nofun⟩
  · rintro ⟨g, hg, complete⟩
    rw [← Except.ok.inj hg] at complete
    cases complete
  · have whole : k = m.steps.length := Except.ok.inj (counted.symm.trans h)
    omega
  · obtain rfl := Except.ok.inj hg
    exact ⟨k, counted, short, rfl, rfl, rfl⟩
  · obtain rfl := Except.ok.inj (counted.symm.trans hp)
    exact passed_mapM passed hks

/-- A walk ends at the first step at which looking fails. -/
theorem walk_to_fault {f : Fault} (short : k < m.steps.length)
    (passed : ∀ i, i < k → m.verify n i = .ok (m.passedGrade i))
    (fault : m.verify n k = .error f) (uncounted : m.progress n = .error f) :
    Walk m n 0 (1 + k) (.error f) ∧ Tallies m n (1 + k) (.error f) := by
  have last : Walk m n k 1 (.error f) := .stop fault nofun
  refine ⟨last.from_start short passed, by omega, fun f' => ?_, ?_, nofun,
    fun p hp => absurd (uncounted.symm.trans hp) nofun⟩
  · rw [uncounted, Except.error.injEq, Except.error.injEq]
  · rw [uncounted]
    exact ⟨nofun, nofun⟩

/-- The walk through a mission ends within as many grades as there are steps, where the progress
says. -/
theorem exists_walk (nonempty : m.steps ≠ []) (n : Network) :
    ∃ calls r, Walk m n 0 calls r ∧ Tallies m n calls r := by
  obtain ⟨p, checks, ends⟩ := passing_cases n m.steps
  have passed : ∀ k, k < p → k < m.steps.length → m.verify n k = .ok (m.passedGrade k) := by
    intro k hk short
    rw [verify_of_step (List.getElem?_eq_getElem short),
      checks k _ hk (List.getElem?_eq_getElem short)]
    rfl
  rcases ends with ⟨rfl, all⟩ | ⟨s, hs, ends⟩
  · -- the progress is the number of steps, but no walk is graded at a step behind the last one
    obtain ⟨k, length⟩ : ∃ k, m.steps.length = k + 1 :=
      Nat.exists_eq_succ_of_ne_zero fun none => nonempty (List.length_eq_zero_iff.1 none)
    exact ⟨_, _, walk_through length (fun i hi => passed i (by omega) (by omega)) all⟩
  · have short : p < m.steps.length := (List.getElem?_eq_some_iff.1 hs).1
    have before : ∀ k, k < p → m.verify n k = .ok (m.passedGrade k) :=
      fun k hk => passed k hk (by omega)
    have graded := verify_of_step (n := n) hs
    rcases ends with ⟨fails, counted⟩ | ⟨f, fault, uncounted⟩
    · rw [fails] at graded
      exact ⟨_, _, walk_to_failure short before graded counted⟩
    · rw [fault] at graded
      exact ⟨_, _, walk_to_fault short before graded uncounted⟩

/-! ## The catalogue -/

theorem steps_ne_nil (hm : m ∈ Mission.all) : m.steps ≠ [] := by
  have every : ∀ m ∈ Mission.all, m.steps ≠ [] := by
    simp [Mission.all, startupOffice, departmentSeparation, dataCenter]
  exact every m hm

/-- The progress is counted if the addresses of PCs are texts. -/
theorem succeeds_progress (hm : m ∈ Mission.all) (hn : n.Addressable) :
    Succeeds (m.progress n) := by
  obtain ⟨p, -, ⟨-, all⟩ | ⟨s, hs, ⟨-, all⟩ | ⟨f, fault, -⟩⟩⟩ := passing_cases n m.steps
  · exact ⟨p, all⟩
  · exact ⟨p, all⟩
  · obtain ⟨b, hb⟩ := (listed_of_mem hm (List.mem_of_getElem? hs)).succeeds hn
    exact absurd (hb.symm.trans fault) nofun

/-- Grading a mission of the catalogue step by step, as each grade names the step to try next, ends
within as many grades as the mission has steps, and ends where its progress says.  The progress is
counted wherever the addresses of PCs are texts, as far as they have one. -/
theorem walk_progress (hm : m ∈ Mission.all) (n : Network) :
    ∃ calls r, (∀ calls' r', Walk m n 0 calls' r' ↔ calls' = calls ∧ r' = r) ∧
      Tallies m n calls r ∧ (n.Addressable → Succeeds (m.progress n)) := by
  obtain ⟨calls, r, walk, tallies⟩ := exists_walk (steps_ne_nil hm) n
  refine ⟨calls, r, fun calls' r' => ⟨walk.unique, ?_⟩, tallies, succeeds_progress hm⟩
  rintro ⟨rfl, rfl⟩
  exact walk

/-- An office that is cabled and has one of its two addresses: the walk ends at the second step. -/
theorem walk_progress_cabled :
    let n := Network.build [.addDevice { uid := "R1", kind := .text "ROUTER" },
      .addDevice { uid := "S1", kind := .text "SWITCH_L2" },
      .addDevice { uid := "P1", kind := .text "PC", address := .text "192.168.1.10" },
      .addDevice { uid := "P2", kind := .text "PC" }, .addLink "R1" "S1" .null,
      .addLink "S1" "P1" .null, .addLink "S1" "P2" .null]
    (startupOffice ∈ Mission.all ∧ startupOffice.progress n = .ok 1) ∧
      ∃ calls r, (∀ calls' r', Walk startupOffice n 0 calls' r' ↔ calls' = calls ∧ r' = r) ∧
        Tallies startupOffice n calls r ∧
          (n.Addressable → Succeeds (startupOffice.progress n)) := by
  intro n
  have listed : startupOffice ∈ Mission.all := List.mem_cons_self ..
  exact ⟨⟨listed, by decide +kernel⟩, walk_progress listed n⟩

end NetLab.Mission
