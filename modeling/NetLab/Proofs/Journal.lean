import Mathlib.Data.List.DropRight
import NetLab.Journal
import NetLab.Proofs.Collection.Index

set_option autoImplicit false

/-!
# What a journal keeps

Several writers note events in one journal, and any of them may clear it.  No call is cut by
another, so what the writers do is one sequence of calls, in which each writer's own calls keep
their order.  After any such sequence the journal holds the newest of the events that were noted
since it was last cleared, as many as its limit allows and in the order of the calls, and what it
answers is about these events and no others (`Journal.records_run`).  A limit of zero or below
allows none.
-/

namespace NetLab

/-! ## Events that are asked for -/

theorem Value.plain_eq_null_iff {v : Value} : v.plain = .null ↔ v = .null := by
  cases v with
  | float d =>
    rw [plain, plainNumber]
    split <;> simp
  | _ => simp [plain]

namespace Event

variable {kind : String} {uid : Value} {e : Event}

/-- The event is of a kind, and where a device is asked for, it tells of a device, which is that
one. -/
def Concerns (kind : String) (uid : Value) (e : Event) : Prop :=
  e.kind = kind ∧ (uid = .null ∨ ∃ v, Value.field? "uid" e.data = some v ∧ v.equals uid = true)

/-- An event that tells of no device is about none that is asked for. -/
theorem isAbout_iff : e.isAbout kind uid = true ↔ e.Concerns kind uid := by
  rw [isAbout, Bool.and_eq_true, beq_iff_eq, Bool.or_eq_true, decide_eq_true_eq, Concerns,
    Value.field]
  refine and_congr_right fun _ => or_congr_right' fun any => ?_
  cases Value.field? "uid" e.data with
  | none =>
    have other : Value.null.plain ≠ uid.plain :=
      fun same => any (Value.plain_eq_null_iff.1 same.symm)
    simp [Value.equals, other]
  | some v => simp

instance (kind : String) (uid : Value) : DecidablePred (Concerns kind uid) :=
  fun _ => decidable_of_iff _ isAbout_iff

end Event

namespace Journal

variable {ω : Type}

/-! ## Calls -/

/-- What a writer asks of a journal: to note something, or to be cleared. -/
inductive Call where
  | note (kind data : Value)
  | clear
  deriving DecidableEq, Repr

namespace Call

/-- The call clears the journal. -/
def clears : Call → Bool
  | clear => true
  | note .. => false

/-- The event that a call adds.  Details that are no record, or that use a reserved name, add
none. -/
def event? : Call → Option Event
  | note kind (.object fs) =>
    if fs.any fun f => reserved.contains f.1 then none else some ⟨kind.display, fs⟩
  | _ => none

end Call

/-- The journal after a call, under a limit. -/
def call (limit : Int) (j : Journal Event) : Call → Journal Event
  | .note kind data => (j.noteWithin (.int limit) kind data).2
  | .clear => j.clear

/-- A new journal after the calls of writers, in the order in which they came. -/
def run (limit : Int) (calls : List (ω × Call)) : Journal Event :=
  calls.foldl (fun j c => j.call limit c.2) (empty (some limit))

/-! ## What should be kept -/

/-- What one of the writers did, in its order. -/
def ofWriter [DecidableEq ω] {α : Type} (w : ω) (xs : List (ω × α)) : List α :=
  (xs.filter fun x => x.1 = w).map Prod.snd

/-- The events that calls add, each with the writer that added it. -/
def added (calls : List (ω × Call)) : List (ω × Event) :=
  calls.filterMap fun c => c.2.event?.map (c.1, ·)

/-- The events that were added since the journal was last cleared. -/
def fresh (calls : List (ω × Call)) : List (ω × Event) :=
  added (calls.rtakeWhile fun c => !c.2.clears)

/-- The newest of these events, as many as a limit allows. -/
def newest (limit : Int) (calls : List (ω × Call)) : List (ω × Event) :=
  (fresh calls).rtake limit.toNat

/-- The journal records the calls: it holds the newest events, and what it answers is about these
and no others. -/
structure Records [DecidableEq ω] (limit : Int) (calls : List (ω × Call)) (j : Journal Event) :
    Prop where
  events : j.toList = (newest limit calls).map Prod.snd
  size : j.toList.length = min limit.toNat (fresh calls).length
  /-- Of each writer, the events are there that its own calls added last, in their order. -/
  own : ∀ w, ofWriter w (newest limit calls) <:+ (ofWriter w calls).filterMap Call.event?
  ofKind : ∀ kind uid,
    j.ofKind kind uid = ((newest limit calls).map Prod.snd).filter (Event.Concerns kind uid)
  counts : ∃ fields, j.toDocument = .object fields ∧
    Value.field? "eventCount" fields = some (.int (newest limit calls).length) ∧
    Value.field? "events" fields =
      some (.list ((newest limit calls).map fun e => e.2.toDocument))

/-! ## One call -/

/-- What was too old before an event is added is too old after it. -/
theorem rtake_rtake_concat {α : Type} (n : Nat) (xs : List α) (x : α) :
    (xs.rtake n ++ [x]).rtake n = (xs ++ [x]).rtake n := by
  cases n with
  | zero => simp
  | succ n =>
    rw [List.rtake_concat_succ, List.rtake_concat_succ]
    simp [List.rtake_eq_reverse_take_reverse, List.take_take]

/-- The event that is added is the newest, and no more stay than the limit allows. -/
theorem toList_add {α : Type} {j : Journal α} {limit : Int} (h : j.capacity = some limit) (x : α) :
    (j.add x).toList = (j.toList ++ [x]).rtake limit.toNat := by
  have size : j.entries.size = j.toList.length := by simp [toList]
  have dropped : (j.add x).toList =
      (j.toList ++ [x]).drop ((j.toList.length + 1 : Nat) - limit).toNat := by
    unfold add overflow
    rw [h, size]
    dsimp only
    generalize ((j.toList.length + 1 : Nat) - limit).toNat = excess
    split
    · next none => simp [none, toList]
    · have whole : (j.entries.push x).toList = j.toList ++ [x] := by simp [toList]
      rw [toList, Array.toList_extract, List.extract_eq_take_drop, whole, List.take_of_length_le]
      simp [size]
  rw [dropped, List.rtake, List.length_append, List.length_singleton]
  obtain negative | _ := Int.lt_or_le limit 0
  · -- the excess is more than there is
    have none_left : ∀ k, j.toList.length + 1 ≤ k → (j.toList ++ [x]).drop k = [] :=
      fun k hk => List.drop_eq_nil_of_le (by simpa using hk)
    exact (none_left _ (by omega)).trans (none_left _ (by omega)).symm
  · congr 1
    omega

theorem call_note (limit : Int) (j : Journal Event) (kind data : Value) :
    j.call limit (.note kind data) =
      match (Call.note kind data).event? with
      | some e => j.add e
      | none => j := by
  unfold call noteWithin note
  cases data with
  | object fs =>
    dsimp only [Call.event?]
    cases fs.any fun f => reserved.contains f.1 with
    | true => rfl
    | false => rfl
  | _ => rfl

theorem capacity_call (limit : Int) (j : Journal Event) (c : Call) :
    (j.call limit c).capacity = j.capacity := by
  cases c with
  | clear => rfl
  | note kind data =>
    rw [call_note]
    split
    · rfl
    · rfl

/-! ## Sequences of calls -/

theorem run_concat (limit : Int) (calls : List (ω × Call)) (c : ω × Call) :
    run limit (calls ++ [c]) = (run limit calls).call limit c.2 := by
  simp [run]

theorem capacity_run (limit : Int) (calls : List (ω × Call)) :
    (run limit calls).capacity = some limit := by
  induction calls using List.reverseRecOn with
  | nil => rfl
  | append_singleton calls c ih => rw [run_concat, capacity_call, ih]

theorem fresh_concat (calls : List (ω × Call)) (c : ω × Call) :
    fresh (calls ++ [c]) = if c.2.clears then [] else fresh calls ++ added [c] := by
  rw [fresh, List.rtakeWhile_concat]
  cases c.2.clears with
  | true => rfl
  | false => simp [fresh, added]

/-- After every call the journal holds the newest events. -/
theorem toList_run (limit : Int) (calls : List (ω × Call)) :
    (run limit calls).toList = ((fresh calls).map Prod.snd).rtake limit.toNat := by
  induction calls using List.reverseRecOn with
  | nil => simp [run, fresh, added, toList, empty]
  | append_singleton calls c ih =>
    obtain ⟨w, c⟩ := c
    rw [run_concat, fresh_concat]
    cases c with
    | clear => simp [call, clear, toList, Call.clears]
    | note kind data =>
      simp only [Call.clears, Bool.false_eq_true, if_false, List.map_append]
      rw [call_note]
      cases noted : (Call.note kind data).event? with
      | none => simp [added, noted, ih]
      | some e =>
        have one : added [(w, Call.note kind data)] = [(w, e)] := by simp [added, noted]
        rw [toList_add (capacity_run limit calls), ih, rtake_rtake_concat, one]
        rfl

theorem map_newest (limit : Int) (calls : List (ω × Call)) :
    (newest limit calls).map Prod.snd = ((fresh calls).map Prod.snd).rtake limit.toNat := by
  simp [newest, List.rtake]

/-- The newest events were added by calls, the last of them by the last calls. -/
theorem newest_suffix (limit : Int) (calls : List (ω × Call)) :
    newest limit calls <:+ added calls :=
  (List.drop_suffix _ _).trans ((List.rtakeWhile_suffix _ calls).filterMap _)

theorem ofWriter_added [DecidableEq ω] (w : ω) (calls : List (ω × Call)) :
    ofWriter w (added calls) = (ofWriter w calls).filterMap Call.event? := by
  induction calls with
  | nil => rfl
  | cons c calls ih =>
    obtain ⟨v, c⟩ := c
    have tail : added ((v, c) :: calls) = (c.event?.map (v, ·)).toList ++ added calls := by
      cases noted : c.event? <;> simp [added, noted]
    rw [tail]
    simp only [ofWriter, List.filter_append, List.map_append] at ih ⊢
    rw [ih]
    by_cases same : v = w
    · cases noted : c.event? <;> simp [same, noted]
    · cases noted : c.event? <;> simp [same]

/-- After any sequence of calls of any writers, a journal of any limit holds the newest events that
were added since it was last cleared, as many as the limit allows, in the order of the calls; each
writer's events are in the writer's order, and what is asked about events is answered from these. -/
theorem records_run [DecidableEq ω] (limit : Int) (calls : List (ω × Call)) :
    Records limit calls (run limit calls) := by
  have events : (run limit calls).toList = (newest limit calls).map Prod.snd := by
    rw [toList_run, map_newest]
  have count : (run limit calls).toList.length = (newest limit calls).length := by
    rw [events, List.length_map]
  refine ⟨events, ?_, fun w => ?_, fun kind uid => ?_, ?_⟩
  · rw [count, newest, List.rtake, List.length_drop]
    omega
  · rw [← ofWriter_added]
    exact ((newest_suffix limit calls).filter _).map _
  · rw [Journal.ofKind, events]
    refine List.filter_congr fun e _ => Bool.eq_iff_iff.2 ?_
    rw [Event.isAbout_iff, decide_eq_true_eq]
  · have different : ([("schema", Value.text schema),
        ("eventCount", .int (run limit calls).toList.length),
        ("events", .list ((run limit calls).toList.map Event.toDocument))].map Prod.fst).Nodup := by
      simp
    refine ⟨_, rfl, ?_, ?_⟩
    · rw [Value.field?_record different, count]
      rfl
    · rw [Value.field?_record different, events, List.map_map]
      rfl

/-- Two writers fill a journal of two events, and the oldest one goes. -/
example :
    let note (kind : String) : Call := .note (.text kind) (.object [])
    ((run 2 [("left", note "a"), ("right", note "b"), ("left", note "c")]).toList.map Event.kind,
      (run 0 [("left", note "a")]).toList) = (["b", "c"], []) := by
  decide

end Journal

end NetLab
