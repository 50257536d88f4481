import Mathlib.Algebra.Group.Nat.Defs
import NetLab.Fault

set_option autoImplicit false

/-!
# Numerals read back

A whole number that is not too long to be read reads back from its own digits, and what is read is
never longer than that.
-/

namespace NetLab

/-! ## Digits -/

namespace Text

theorem digitValue?_of_isDigit {c : Char} (h : c.isDigit = true) :
    digitValue? c = some (c.toNat - 0x30) := by
  have hc : 0x30 ≤ c.toNat ∧ c.toNat ≤ 0x39 := Char.isDigit_iff_toNat.1 h
  rw [digitValue?, if_pos (by omega), if_pos (by simpa using hc)]

theorem isDigit_of_isDigit {c : Char} (h : c.isDigit = true) : isDigit c = true := by
  rw [isDigit, digitValue?_of_isDigit h, Option.isSome_some]

theorem digitValue?_lt {c : Char} {d : Nat} (h : digitValue? c = some d) : d < 10 := by
  rw [digitValue?] at h
  split at h
  · split at h
    · next hc =>
      rw [Bool.and_eq_true, decide_eq_true_eq, decide_eq_true_eq] at hc
      obtain rfl := Option.some.inj h
      omega
    · cases h
  · obtain ⟨z, hz, rfl⟩ := Option.map_eq_some_iff.1 h
    have hrange := List.find?_some hz
    rw [Bool.and_eq_true, decide_eq_true_eq, decide_eq_true_eq] at hrange
    omega

/-- No digit of any script is a blank. -/
theorem isMargin_of_digit {c : Char} (h : isDigit c = true) : isMargin c = false := by
  -- the blocks of digits, ASCII included, do not meet the ranges of blanks
  have apart : ∀ z ∈ 0x30 :: zeros, ∀ r ∈ blanks, r.2 < z ∨ z + 10 ≤ r.1 := by decide
  obtain ⟨z, hz, low, high⟩ : ∃ z ∈ 0x30 :: zeros, z ≤ c.toNat ∧ c.toNat < z + 10 := by
    rw [isDigit, digitValue?] at h
    split at h
    · split at h
      · next hc =>
        rw [Bool.and_eq_true, decide_eq_true_eq, decide_eq_true_eq] at hc
        exact ⟨0x30, List.mem_cons_self .., hc.1, by omega⟩
      · cases h
    · rw [Option.isSome_map] at h
      obtain ⟨z, hz⟩ := Option.isSome_iff_exists.1 h
      have hrange := List.find?_some hz
      rw [Bool.and_eq_true, decide_eq_true_eq, decide_eq_true_eq] at hrange
      exact ⟨z, List.mem_cons_of_mem _ (List.mem_of_find?_eq_some hz), hrange⟩
  have outside : ∀ r ∈ blanks, (decide (r.1 ≤ c.toNat) && decide (c.toNat ≤ r.2)) = false := by
    intro r hr
    rw [Bool.and_eq_false_iff, decide_eq_false_iff_not, decide_eq_false_iff_not]
    rcases apart z hz r hr with h | h
    · right
      omega
    · left
      omega
  rw [isMargin, isBlank, Ranges.has, List.any_eq_false.2 fun r hr => by simp [outside r hr],
    Bool.false_and]

/-- A run of digits writes less than the power of ten that has one more digit. -/
theorem ofDigits_lt {ds : List Nat} (h : ∀ d ∈ ds, d < 10) : ofDigits ds < 10 ^ ds.length := by
  have start : ∀ n : Nat, ds.foldl (fun n d => 10 * n + d) n < (n + 1) * 10 ^ ds.length := by
    induction ds with
    | nil => intro n; simp
    | cons d ds ih =>
      intro n
      have hd : d < 10 := h d (List.mem_cons_self ..)
      have hrest := ih (fun x hx => h x (List.mem_cons_of_mem _ hx)) (10 * n + d)
      rw [List.foldl_cons, List.length_cons, Nat.pow_succ]
      calc ds.foldl (fun n d => 10 * n + d) (10 * n + d)
          < (10 * n + d + 1) * 10 ^ ds.length := hrest
        _ ≤ ((n + 1) * 10) * 10 ^ ds.length := Nat.mul_le_mul_right _ (by omega)
        _ = (n + 1) * (10 ^ ds.length * 10) := by rw [Nat.mul_assoc, Nat.mul_comm 10]
  have hzero := start 0
  rwa [Nat.zero_add, Nat.one_mul] at hzero

theorem ofDigits_map_toNat (cs : List Char) :
    ofDigits (cs.map fun c => c.toNat - 0x30) = Nat.ofDigitChars 10 cs 0 := by
  rw [ofDigits, List.foldl_map, Nat.ofDigitChars_eq_foldl]
  rfl

end Text

namespace Numeral

/-- Digits are read one by one, up to the end of the text. -/
theorem digitsFrom_of_values {value : Char → Nat} {cs : List Char}
    (h : ∀ c ∈ cs, Text.digitValue? c = some (value c)) {fresh : Bool}
    (hne : fresh = true → cs ≠ []) : digitsFrom fresh cs = some (cs.map value, []) := by
  induction cs generalizing fresh with
  | nil =>
    cases fresh with
    | true => exact absurd rfl (hne rfl)
    | false => rfl
  | cons c cs ih =>
    rw [digitsFrom, h c (List.mem_cons_self ..)]
    dsimp only
    rw [ih (fun x hx => h x (List.mem_cons_of_mem _ hx)) (fun hf => by cases hf)]
    rfl

theorem lt_of_mem_digitsFrom {fresh : Bool} {cs : List Char} {ds : List Nat} {rest : List Char}
    (h : digitsFrom fresh cs = some (ds, rest)) : ∀ d ∈ ds, d < 10 := by
  induction cs generalizing fresh ds with
  | nil =>
    cases fresh with
    | true => cases h
    | false =>
      cases h
      intro d hd
      cases hd
  | cons c cs ih =>
    rw [digitsFrom] at h
    split at h
    · next value hvalue =>
      obtain ⟨p, hp, heq⟩ := Option.map_eq_some_iff.1 h
      obtain ⟨rfl, rfl⟩ := Prod.mk.inj heq
      intro d hd
      rcases List.mem_cons.1 hd with rfl | hd
      · exact Text.digitValue?_lt hvalue
      · exact ih hp d hd
    · split at h
      · split at h
        · cases h
        · exact ih h
      · split at h
        · cases h
        · cases h
          intro d hd
          cases hd

/-- The number is written with no more digits than a numeral may have. -/
def IsShort (n : Int) : Prop := n.natAbs < 10 ^ maxDigits

/-- Only short numbers are read. -/
theorem isShort_of_parse {s : String} {n : Int} (h : parse s = .ok n) : IsShort n := by
  rw [IsShort]
  rw [parse, read] at h
  split at h
  · cases h
  · next ds rest hds =>
    split at h
    · cases h
    · next hlen =>
      split at h
      · have hlt : Text.ofDigits ds < 10 ^ maxDigits :=
          Nat.lt_of_lt_of_le (Text.ofDigits_lt (lt_of_mem_digitsFrom hds))
            (Nat.pow_le_pow_right (by decide) (Nat.le_of_not_lt hlen))
        have heq := Except.ok.inj h
        split at heq
        · omega
        · omega
      · cases h

/-- The digits of a natural number read back as it, behind a sign or without one. -/
theorem read_toDigits {n : Nat} {cs : List Char} {negative : Bool}
    (hsign : takeSign cs = (negative, Nat.toDigits 10 n)) (h : n < 10 ^ maxDigits) :
    read cs = .ok (if negative then -(n : Int) else n) := by
  have digits : ∀ c ∈ Nat.toDigits 10 n, c.isDigit = true :=
    fun c hc => Nat.isDigit_of_mem_toDigits (by decide) (by decide) hc
  have length : (Nat.toDigits 10 n).length ≤ maxDigits :=
    (Nat.length_toDigits_le_iff (by decide) (by decide)).2 h
  rw [read, hsign]
  dsimp only
  rw [digitsFrom_of_values (fun c hc => Text.digitValue?_of_isDigit (digits c hc))
    fun _ => Nat.toDigits_ne_nil]
  dsimp only
  rw [List.length_map, if_neg (Nat.not_lt.2 length), List.all_nil, if_pos rfl,
    Text.ofDigits_map_toNat, Nat.ofDigitChars_ten_toDigits]

theorem takeSign_of_digit {c : Char} {cs : List Char} (h : Text.isDigit c = true) :
    takeSign (c :: cs) = (false, c :: cs) := by
  rw [takeSign.eq_def]
  split
  · next heq =>
    cases heq
    exact absurd h (by decide)
  · next heq =>
    cases heq
    exact absurd h (by decide)
  · rfl

/-- A short number reads back from its own text. -/
theorem parse_toString {n : Int} (h : IsShort n) : parse (toString n) = .ok n := by
  rw [IsShort] at h
  rw [parse, Int.toString_eq_repr, Int.repr_eq_if]
  split
  · next hn =>
    rw [Nat.toList_repr]
    have digits : ∀ c ∈ Nat.toDigits 10 n.toNat, c.isDigit = true :=
      fun c hc => Nat.isDigit_of_mem_toDigits (by decide) (by decide) hc
    have hne : Nat.toDigits 10 n.toNat ≠ [] := Nat.toDigits_ne_nil
    obtain ⟨c, cs, hcons⟩ := List.exists_cons_of_ne_nil hne
    have hc : Text.isDigit c = true :=
      Text.isDigit_of_isDigit (digits c (by rw [hcons]; exact List.mem_cons_self ..))
    have hdrop : (Nat.toDigits 10 n.toNat).dropWhile Text.isMargin = Nat.toDigits 10 n.toNat := by
      rw [hcons, List.dropWhile_cons_of_neg (by simp [Text.isMargin_of_digit hc])]
    have hsign : takeSign (Nat.toDigits 10 n.toNat) = (false, Nat.toDigits 10 n.toNat) := by
      rw [hcons, takeSign_of_digit hc]
    have hback : (n.toNat : Int) = n := by omega
    rw [hdrop, read_toDigits hsign (by omega), if_neg Bool.false_ne_true, hback]
  · next hn =>
    have hlist : ("-" ++ (-n).toNat.repr).toList = '-' :: Nat.toDigits 10 (-n).toNat := by simp
    have hdrop : ('-' :: Nat.toDigits 10 (-n).toNat).dropWhile Text.isMargin =
        '-' :: Nat.toDigits 10 (-n).toNat :=
      List.dropWhile_cons_of_neg (by decide)
    rw [hlist, hdrop, @read_toDigits (-n).toNat _ true rfl (by omega)]
    have hback : -((-n).toNat : Int) = n := by omega
    rw [if_pos rfl, hback]

end Numeral

/-! ## Whole numbers -/

theorem isShort_of_readNumeral {s : String} {n : Int} (h : readNumeral s = .ok n) :
    Numeral.IsShort n := by
  rw [readNumeral] at h
  split at h
  · next hparse =>
    obtain rfl := Except.ok.inj h
    exact Numeral.isShort_of_parse hparse
  · cases h

/-- A short number is read from its own text. -/
theorem readNumeral_toString {n : Int} (h : Numeral.IsShort n) :
    readNumeral (toString n) = .ok n := by
  rw [readNumeral, Numeral.parse_toString h]

end NetLab
