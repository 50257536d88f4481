import Mathlib.Data.List.Chain
import Mathlib.Data.List.Lex
import Mathlib.Data.Prod.Lex
import NetLab.Route.Shortest

set_option autoImplicit false

/-!
# Walks over links

A walk goes from device to device over links, each of which leads both ways.  Where it starts, and
which neighbour it takes at every device that it meets (`choices`), settle the walk.  Walks with
fewer hops rank before longer ones, and those with as many hops are ranked by their choices, the
first choice that differs first (`rank`).
-/

namespace NetLab.Route

variable {ν : Type} {links : List (Link ν)} {s t t' u v : ν} {w w' : List ν}

/-- A link joins the two devices, in either direction. -/
def Adjacent (links : List (Link ν)) (u v : ν) : Prop :=
  ∃ l ∈ links, (l.source = u ∧ l.target = v) ∨ (l.target = u ∧ l.source = v)

/-- The devices start with `s`, end with `t`, and each is joined to the next by a link. -/
structure IsWalk (links : List (Link ν)) (s t : ν) (w : List ν) : Prop where
  starts : w.head? = some s
  ends : w.getLast? = some t
  joined : w.IsChain (Adjacent links)

instance [DecidableEq ν] : Decidable (Adjacent links u v) :=
  inferInstanceAs (Decidable (∃ l ∈ links, _))

instance [DecidableEq ν] : Decidable (IsWalk links s t w) :=
  decidable_of_iff (w.head? = some s ∧ w.getLast? = some t ∧ w.IsChain (Adjacent links))
    ⟨fun h => ⟨h.1, h.2.1, h.2.2⟩, fun h => ⟨h.starts, h.ends, h.joined⟩⟩

namespace IsWalk

/-- To stay where one is takes no link. -/
theorem single (links : List (Link ν)) (s : ν) : IsWalk links s s [s] :=
  ⟨rfl, rfl, List.isChain_singleton s⟩

theorem concat (h : IsWalk links s u w) (next : Adjacent links u v) :
    IsWalk links s v (w ++ [v]) where
  starts := by rw [List.head?_append, h.starts, Option.some_or]
  ends := List.getLast?_concat
  joined := by
    refine h.joined.append (List.isChain_singleton v) fun x hx y hy => ?_
    obtain rfl : u = x := Option.some.inj (h.ends.symm.trans hx)
    obtain rfl : v = y := Option.some.inj hy
    exact next

theorem ne_nil (h : IsWalk links s t w) : w ≠ [] := by
  rintro rfl
  cases h.starts

/-- A walk stays where it starts, or takes one more link behind a walk. -/
theorem eq_single_or_concat (h : IsWalk links s t w) :
    (t = s ∧ w = [s]) ∨
      ∃ u w', IsWalk links s u w' ∧ Adjacent links u t ∧ w = w' ++ [t] := by
  obtain ⟨w', last, rfl⟩ := (List.eq_nil_or_concat' w).resolve_left h.ne_nil
  obtain rfl : last = t := Option.some.inj (List.getLast?_concat.symm.trans h.ends)
  obtain ⟨joined, -, next⟩ := List.isChain_append.1 h.joined
  cases hu : w'.getLast? with
  | none =>
    obtain rfl : w' = [] := List.getLast?_eq_none_iff.1 hu
    obtain rfl : last = s := Option.some.inj h.starts
    exact Or.inl ⟨rfl, rfl⟩
  | some u =>
    have starts : w'.head? = some s := by
      have whole := h.starts
      rwa [List.head?_append_of_ne_nil] at whole
      rintro rfl
      cases hu
    exact Or.inr ⟨u, w', ⟨starts, hu, joined⟩, next u hu last rfl, rfl⟩

/-- What holds where a walk starts, and behind every link that it takes, holds where it ends. -/
theorem induction {P : ν → List ν → Prop} (h : IsWalk links s t w) (start : P s [s])
    (step : ∀ u v w, IsWalk links s u w → P u w → Adjacent links u v → P v (w ++ [v])) :
    P t w := by
  induction hn : w.length generalizing t w with
  | zero => exact absurd (List.length_eq_zero_iff.1 hn) h.ne_nil
  | succ n ih =>
    obtain ⟨rfl, rfl⟩ | ⟨u, w', walk, next, rfl⟩ := h.eq_single_or_concat
    · exact start
    · exact step u t w' walk (ih walk (by simpa using hn)) next

end IsWalk

/-! ## Choices -/

variable [BEq ν]

/-- The choice that is made at each device of a walk but the last: at which place among the
neighbours of the device the next one first stands. -/
def choices (links : List (Link ν)) : List ν → List Nat
  | u :: v :: rest => (neighbours links u).idxOf v :: choices links (v :: rest)
  | _ => []

/-- One choice is made for every hop. -/
theorem length_choices (links : List (Link ν)) (w : List ν) :
    (choices links w).length = w.length - 1 := by
  induction w with
  | nil => rfl
  | cons u rest ih =>
    cases rest with
    | nil => rfl
    | cons v rest => simpa [choices] using ih

theorem choices_concat (ends : w.getLast? = some u) (v : ν) :
    choices links (w ++ [v]) = choices links w ++ [(neighbours links u).idxOf v] := by
  induction w with
  | nil => cases ends
  | cons x rest ih =>
    cases rest with
    | nil =>
      obtain rfl : x = u := Option.some.inj ends
      rfl
    | cons y rest => exact congrArg ((neighbours links x).idxOf y :: ·) (ih ends)

variable [LawfulBEq ν]

/-- The neighbours of a device are those to which a link joins it. -/
theorem mem_neighbours_iff : v ∈ neighbours links u ↔ Adjacent links u v := by
  simp only [neighbours, Adjacent, List.mem_flatMap, List.mem_append, List.mem_ite_nil_right,
    List.mem_singleton, beq_iff_eq, eq_comm (a := v)]

/-- Chains from one device that make the same choices are the same. -/
theorem eq_of_choices_eq {s : ν} {w w' : List ν} (h : (s :: w).IsChain (Adjacent links))
    (h' : (s :: w').IsChain (Adjacent links))
    (same : choices links (s :: w) = choices links (s :: w')) : w = w' := by
  induction w generalizing s w' with
  | nil =>
    cases w' with
    | nil => rfl
    | cons v' w' => cases same
  | cons v w ih =>
    cases w' with
    | nil => cases same
    | cons v' w' =>
      obtain ⟨next, rest⟩ := List.isChain_cons_cons.1 h
      obtain ⟨-, rest'⟩ := List.isChain_cons_cons.1 h'
      obtain ⟨first, same⟩ := List.cons.inj same
      obtain rfl : v = v' := (List.idxOf_inj (mem_neighbours_iff.2 next)).1 first
      rw [ih rest rest' same]

/-- A walk is settled by where it starts and by its choices. -/
theorem IsWalk.eq_of_choices_eq (h : IsWalk links s t w) (h' : IsWalk links s t' w')
    (same : choices links w = choices links w') : w = w' := by
  obtain ⟨rest, rfl⟩ := List.head?_eq_some_iff.1 h.starts
  obtain ⟨rest', rfl⟩ := List.head?_eq_some_iff.1 h'.starts
  rw [Route.eq_of_choices_eq h.joined h'.joined same]

/-! ## Ranks -/

/-- The rank of a walk, given by its choices: the number of hops, then the choices in order. -/
def rank (cs : List Nat) : ℕ ×ₗ List ℕ := toLex (cs.length, cs)

section

variable {a b : List Nat} {i j : Nat}

theorem rank_lt_iff : rank a < rank b ↔ a.length < b.length ∨ (a.length = b.length ∧ a < b) :=
  Prod.Lex.toLex_lt_toLex

theorem eq_of_rank_eq (h : rank a = rank b) : a = b := congrArg Prod.snd (toLex.injective h)

theorem length_le_of_rank_le (h : rank a ≤ rank b) : a.length ≤ b.length := by
  rcases h.lt_or_eq with lt | eq
  · rcases rank_lt_iff.1 lt with shorter | ⟨same, -⟩
    · exact shorter.le
    · exact same.le
  · rw [eq_of_rank_eq eq]

/-- To stay where one is ranks first. -/
theorem rank_nil_le (b : List Nat) : rank [] ≤ rank b := by
  cases b with
  | nil => rfl
  | cons j b =>
    have shorter : ([] : List Nat).length < (j :: b).length := Nat.succ_pos b.length
    exact (rank_lt_iff.2 (Or.inl shorter)).le

/-- Another hop makes a walk rank later. -/
theorem rank_lt_concat (a : List Nat) (i : Nat) : rank a < rank (a ++ [i]) :=
  rank_lt_iff.2 (Or.inl (by simp))

/-- Walks as long as each other keep their order when more is chosen. -/
theorem concat_lt_concat (length : a.length = b.length) (h : a < b) : a ++ [i] < b ++ [j] := by
  induction a generalizing b with
  | nil =>
    cases b with
    | nil => exact absurd h (lt_irrefl _)
    | cons y b => cases length
  | cons x a ih =>
    cases b with
    | nil => cases length
    | cons y b =>
      rcases List.cons_lt_cons_iff.1 h with first | ⟨same, rest⟩
      · exact List.cons_lt_cons_iff.2 (Or.inl first)
      · exact List.cons_lt_cons_iff.2 (Or.inr ⟨same, ih (Nat.succ.inj length) rest⟩)

/-- Whatever is chosen next, a walk that ranks before another one goes on before it. -/
theorem rank_concat_lt (h : rank a < rank b) (i j : Nat) : rank (a ++ [i]) < rank (b ++ [j]) := by
  rw [rank_lt_iff, List.length_append, List.length_append]
  rcases rank_lt_iff.1 h with shorter | ⟨same, lt⟩
  · exact Or.inl (Nat.add_lt_add_right shorter 1)
  · exact Or.inr ⟨congrArg (· + 1) same, concat_lt_concat same lt⟩

theorem rank_concat_le (h : rank a ≤ rank b) (i : Nat) : rank (a ++ [i]) ≤ rank (b ++ [i]) := by
  rcases h.lt_or_eq with lt | eq
  · exact (rank_concat_lt lt i i).le
  · rw [eq_of_rank_eq eq]

/-- Of two ways to go on, the one of the earlier choice ranks first. -/
theorem rank_concat_lt_of_lt (a : List Nat) (h : i < j) : rank (a ++ [i]) < rank (a ++ [j]) :=
  rank_lt_iff.2 (Or.inr ⟨by simp, List.append_left_lt (List.cons_lt_cons_iff.2 (Or.inl h))⟩)

end

end NetLab.Route
