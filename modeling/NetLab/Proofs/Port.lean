import Mathlib.Data.List.Basic
import NetLab.Port
import NetLab.Proofs.Number.Numeral

set_option autoImplicit false

/-!
# Numbers at the end of interface names

The number of a port is read off the end of an interface name, which may be any text.  It is read
unless it has more digits than a numeral may have, and that is the only way in which reading it
fails (`Port.position?_eq`).
-/

namespace NetLab

/-- The number that digits write, each in the digits of any script. -/
def Text.numberOf (cs : List Char) : Nat := ofDigits (cs.filterMap digitValue?)

namespace Numeral

/-- A text of digits is read as the number that it writes unless it is too long. -/
theorem parse_digits {cs : List Char} (hne : cs ≠ []) (h : ∀ c ∈ cs, Text.isDigit c = true) :
    parse (String.ofList cs) =
      if maxDigits < cs.length then .error (.tooLong cs.length) else .ok (Text.numberOf cs) := by
  obtain ⟨c, r, rfl⟩ := List.exists_cons_of_ne_nil hne
  have first : Text.isDigit c = true := h c (List.mem_cons_self ..)
  let value (x : Char) : Nat := (Text.digitValue? x).getD 0
  have known : ∀ x ∈ c :: r, Text.digitValue? x = some (value x) := by
    intro x hx
    obtain ⟨d, hd⟩ := Option.isSome_iff_exists.1 (h x hx)
    simp [value, hd]
  have hds : digitsFrom true (c :: r) = some ((c :: r).map value, []) :=
    digitsFrom_of_values known fun _ => hne
  have hvalue : Text.numberOf (c :: r) = Text.ofDigits ((c :: r).map value) := by
    rw [Text.numberOf, List.filterMap_eq_map_iff_forall_eq_some.2 known]
  rw [parse, String.toList_ofList,
    List.dropWhile_cons_of_neg (by simp [Text.isMargin_of_digit first]), read,
    takeSign_of_digit first]
  dsimp only
  rw [hds]
  dsimp only
  rw [List.length_map, List.all_nil, if_pos rfl, if_neg Bool.false_ne_true, hvalue]

end Numeral

namespace Port

/-- How many digits end an interface name, if they are more than a numeral may have. -/
def overlong? : Value → Option Nat
  | .text name =>
    let digits := (trailingDigits name.toList).length
    if Numeral.maxDigits < digits then some digits else none
  | _ => none

theorem lt_of_overlong? {name : Value} {digits : Nat} (h : overlong? name = some digits) :
    Numeral.maxDigits < digits := by
  cases name with
  | text name =>
    rw [overlong?] at h
    split at h
    · next long =>
      obtain rfl := Option.some.inj h
      exact long
    · cases h
  | _ => cases h

theorem isDigit_of_mem_trailingDigits {cs : List Char} :
    ∀ c ∈ trailingDigits cs, Text.isDigit c = true := by
  intro c hc
  rw [trailingDigits, List.mem_reverse] at hc
  exact List.all_eq_true.1 List.all_takeWhile c hc

/-- The number at the end of a name is read unless it is too long. -/
theorem position?_eq (name : String) :
    ∃ i, position? name = match overlong? (.text name) with
      | some digits => .error (.longNumeral digits)
      | none => .ok i := by
  rw [position?, overlong?]
  by_cases hne : trailingDigits name.toList = []
  · exact ⟨none, by simp [hne]⟩
  · have hn := Numeral.parse_digits hne isDigit_of_mem_trailingDigits
    refine ⟨some (Text.numberOf (trailingDigits name.toList) - 1), ?_⟩
    split
    · next h => exact absurd h hne
    · rw [readNumeral, hn]
      by_cases long : Numeral.maxDigits < (trailingDigits name.toList).length
      · simp only [long, if_true]
        rfl
      · simp only [long, if_false]
        rfl

end Port

end NetLab
