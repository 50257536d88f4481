import NetLab.Console.Run
import NetLab.Proofs.Command.Table

set_option autoImplicit false

/-!
# What lines mean

The mode of a session and the words of a line settle which action is carried out with which
arguments, before the network is looked at.  A line is refused, or it means an action, which is
carried out where the session stands or, under any number of `do`s, as in privileged mode
(`Command.Meaning`).  Carrying out a line is carrying out its meaning (`Console.dispatch_eq`), so a
statement on lines needs one case for each action and none for nested lines.
-/

namespace NetLab

namespace Command

/-- What the words of a line mean in a mode. -/
inductive Meaning where
  | refused (r : Refusal)
  /-- an action, carried out where the session stands -/
  | plain (a : Action) (args : List String)
  /-- an action, carried out as in privileged mode -/
  | privileged (a : Action) (args : List String)
  deriving DecidableEq, Repr

namespace Meaning

/-- What a line means behind `do`. -/
def underDo : Meaning → Meaning
  | refused r => refused r
  | plain a args | privileged a args => privileged a args

/-- The action, unless the line is refused. -/
def action? : Meaning → Option Action
  | refused _ => none
  | plain a _ | privileged a _ => some a

end Meaning

/-- What the words of a line mean in a mode. -/
def meaning (m : Mode) : List String → Meaning
  | [] => .refused .incomplete
  | w :: ws =>
    match resolve m (w :: ws) with
    | none => .refused (unmatched m (w :: ws))
    | some (cmd, args) =>
      match cmd.checkArity args with
      | some r => .refused r
      | none =>
        match cmd.action with
        | .exec => (meaning .privileged ws).underDo
        | action => .plain action args

/-- An action that words mean in a mode: the mode has it, it is not `do`, and its arguments are
among the words, with one at least where it asks for one. -/
structure Means (m : Mode) (words : List String) (a : Action) (args : List String) : Prop where
  isOf : a.isOf m = true
  notExec : a ≠ .exec
  word : a.needsWord = true → args ≠ []
  suffix : args <:+ words

/-- A line that is not refused means an action of its mode or, under `do`, of privileged mode. -/
theorem means_of_meaning {words : List String} :
    ∀ {m : Mode}, (∀ a args, meaning m words = .plain a args → Means m words a args) ∧
      ∀ a args, meaning m words = .privileged a args → Means .privileged words a args := by
  induction words with
  | nil =>
    intro m
    constructor
    · rintro a args ⟨⟩
    · rintro a args ⟨⟩
  | cons w ws ih =>
    intro m
    rw [meaning]
    split
    · constructor
      · rintro a args ⟨⟩
      · rintro a args ⟨⟩
    · next cmd args hres =>
      obtain ⟨hcmd, hsuffix⟩ := resolve_eq_some hres
      split
      · constructor
        · rintro a args ⟨⟩
        · rintro a args ⟨⟩
      · next harity =>
        split
        · -- whatever stands behind `do` is privileged, also if it stands behind another one
          refine ⟨fun a args h => ?_, fun a args h => ?_⟩
          · cases hinner : meaning .privileged ws <;> simp [hinner, Meaning.underDo] at h
          · have behind : Means .privileged ws a args := by
              cases hinner : meaning .privileged ws with
              | refused r => simp [hinner, Meaning.underDo] at h
              | plain b bs =>
                obtain ⟨rfl, rfl⟩ : b = a ∧ bs = args := by simpa [hinner, Meaning.underDo] using h
                exact ih.1 b bs hinner
              | privileged b bs =>
                obtain ⟨rfl, rfl⟩ : b = a ∧ bs = args := by simpa [hinner, Meaning.underDo] using h
                exact ih.2 b bs hinner
            exact ⟨behind.isOf, behind.notExec, behind.word,
              behind.suffix.trans (List.suffix_cons w ws)⟩
        · next hexec =>
          refine ⟨fun a bs h => ?_, fun a bs h => by cases h⟩
          obtain ⟨rfl, rfl⟩ : cmd.action = a ∧ args = bs := by simpa using h
          refine ⟨isOf_of_mem_table hcmd, hexec, fun hneed => ?_, hsuffix⟩
          rintro rfl
          rw [checkArity, minArgs_of_mem_table hcmd, if_pos hneed] at harity
          simp at harity

end Command

/-! ## Carrying out a meaning -/

namespace Console

/-- The console as in privileged mode. -/
def privileged (c : Console) : Console := c.onSession fun s => { s with place.mode := .privileged }

/-- Carry out what a line means. -/
def carryOut (t : Timing) (c : Console) : Command.Meaning → Outcome
  | .refused r => .refused r c
  | .plain a args => a.run t args c
  | .privileged a args => (a.run t args c.privileged).backTo c.session.place

theorem backTo_backTo (o : Outcome) (p q : Place) : (o.backTo p).backTo q = o.backTo q := by
  cases o <;> rfl

/-- Carrying out the words of a line is carrying out what they mean.  The induction is on the words;
the session goes back to its place once, however many `do`s stand in front. -/
theorem dispatch_eq (t : Timing) (words : List String) (c : Console) :
    c.dispatch t words = c.carryOut t (Command.meaning c.session.mode words) := by
  induction words generalizing c with
  | nil => rfl
  | cons w ws ih =>
    have inner : dispatch t ws c.privileged =
        c.privileged.carryOut t (Command.meaning .privileged ws) := ih c.privileged
    rw [dispatch, Command.meaning]
    cases Command.resolve c.session.mode (w :: ws) with
    | none => rfl
    | some found =>
      obtain ⟨cmd, args⟩ := found
      dsimp only
      cases cmd.checkArity args with
      | some r => rfl
      | none =>
        cases cmd.action with
        | exec =>
          change (dispatch t ws c.privileged).backTo c.session.place =
            c.carryOut t (Command.meaning .privileged ws).underDo
          rw [inner]
          cases Command.meaning .privileged ws with
          | refused r => rfl
          | plain a args => rfl
          | privileged a args => exact backTo_backTo _ _ _
        | _ => rfl

end Console

/-- The console as a command left it, whatever became of the command. -/
def Outcome.console : Outcome → Console
  | .done _ c | .refused _ c | .failed _ c => c

@[simp] theorem Outcome.network_backTo (o : Outcome) (p : Place) :
    (o.backTo p).console.network = o.console.network := by
  cases o <;> rfl

end NetLab
