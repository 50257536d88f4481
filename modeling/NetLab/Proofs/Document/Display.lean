import NetLab.Document.Value

set_option autoImplicit false

/-!
# Values that are given are shown

Whatever is given has a text that is not empty, so a setting that falls back to something else where
nothing is given never shows an empty text.
-/

namespace NetLab

theorem Text.append_ne_empty_left {s t : String} (h : s ≠ "") : s ++ t ≠ "" := by
  simp [h]

theorem Text.append_ne_empty_right {s t : String} (h : t ≠ "") : s ++ t ≠ "" := by
  simp [h]

namespace Double

theorem exponentText_ne_empty (e : Int) : exponentText e ≠ "" := by
  have sign : (if e < 0 then "e-" else "e+") ≠ "" := by
    split <;> decide
  rw [exponentText]
  exact Text.append_ne_empty_left (Text.append_ne_empty_left sign)

theorem displayUnits_ne_empty (units : Nat) : displayUnits units ≠ "" := by
  rw [displayUnits]
  dsimp only
  split
  · split
    · exact Text.append_ne_empty_left (by decide)
    · exact Text.append_ne_empty_left (Text.append_ne_empty_right (by decide))
  · exact Text.append_ne_empty_right (exponentText_ne_empty _)

theorem display_ne_empty (d : Double) : d.display ≠ "" := by
  cases d with
  | finite negative units =>
    refine Text.append_ne_empty_right ?_
    split
    · decide
    · exact displayUnits_ne_empty units
  | infinite negative => cases negative <;> decide
  | undefined => decide

end Double

namespace Value

/-- What is given shows something. -/
theorem display_ne_empty {v : Value} (h : v.given = true) : v.display ≠ "" := by
  cases v with
  | null => cases h
  | bool b => cases b <;> decide
  | int n =>
    change toString n ≠ ""
    rw [Int.toString_eq_repr, Int.repr_eq_if]
    split
    · exact Nat.repr_ne_empty
    · exact Text.append_ne_empty_left (by decide)
  | float d => exact d.display_ne_empty
  | text s => simpa [given, display] using h
  | list xs => exact Text.append_ne_empty_right (by decide)
  | object fs => exact Text.append_ne_empty_right (by decide)

theorem ifGiven_of_given {v : Value} (h : v.given = true) : v.ifGiven = v := if_pos h

/-- Asking twice for what is given changes nothing. -/
@[simp] theorem ifGiven_ifGiven (v : Value) : v.ifGiven.ifGiven = v.ifGiven := by
  cases h : v.given with
  | true => rw [ifGiven_of_given h, ifGiven_of_given h]
  | false =>
    have hnull : v.ifGiven = .null := if_neg (by simp [h])
    rw [hnull]
    rfl

end Value

end NetLab
