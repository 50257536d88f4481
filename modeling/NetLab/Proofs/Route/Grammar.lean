import Mathlib.Computability.RegularExpressions
import NetLab.Proofs.Route.Address

set_option autoImplicit false

/-!
# The grammar of addresses

The form of an address as a regular expression, as it is usually written: three times one to three
digits and a point, and one to three digits.  The texts that match it are the ones whose parts
between the points are four such groups, and both are the valid ones (`Address.isValid_grammar`).
A valid address is its subnet, a point and its last group.
-/

namespace NetLab.Address

/-! ## The regular expression -/

/-- Any one of the characters. -/
def oneOf (cs : List Char) : RegularExpression Char := (cs.map .char).sum

/-- From one to `n` times. -/
def upTo (n : Nat) (r : RegularExpression Char) : RegularExpression Char :=
  ((List.range n).map fun k => r ^ (k + 1)).sum

/-- One to three digits. -/
def digitGroup : RegularExpression Char := upTo 3 (oneOf "0123456789".toList)

/-- Three groups with a point behind each, and a last one. -/
def pattern : RegularExpression Char := (digitGroup * .char '.') ^ 3 * digitGroup

theorem mem_sum_iff {ι : Type} {f : ι → RegularExpression Char} {is : List ι} {x : List Char} :
    x ∈ (is.map f).sum.matches' ↔ ∃ i ∈ is, x ∈ (f i).matches' := by
  induction is with
  | nil => simp
  | cons i is ih => simp [Language.mem_add, ih]

theorem mem_char_iff {c : Char} {x : List Char} :
    x ∈ (RegularExpression.char c).matches' ↔ x = [c] := Iff.rfl

theorem mem_oneOf_iff {cs x : List Char} : x ∈ (oneOf cs).matches' ↔ ∃ c ∈ cs, x = [c] := by
  simp only [oneOf, mem_sum_iff, mem_char_iff]

/-- What matches a power is as long as the exponent says. -/
theorem mem_oneOf_pow_iff {cs x : List Char} {n : Nat} :
    x ∈ (oneOf cs ^ n).matches' ↔ x.length = n ∧ ∀ c ∈ x, c ∈ cs := by
  rw [RegularExpression.matches'_pow]
  induction n generalizing x with
  | zero =>
    rw [pow_zero, Language.mem_one, List.length_eq_zero_iff, iff_self_and]
    rintro rfl
    exact List.forall_mem_nil _
  | succ n ih =>
    simp only [pow_succ', Language.mem_mul, ih, mem_oneOf_iff]
    constructor
    · rintro ⟨_, ⟨c, hc, rfl⟩, x, ⟨size, all⟩, rfl⟩
      exact ⟨congrArg (· + 1) size, List.forall_mem_cons.2 ⟨hc, all⟩⟩
    · rintro ⟨size, all⟩
      obtain ⟨c, x, rfl⟩ := List.exists_of_length_succ x size
      obtain ⟨hc, all⟩ := List.forall_mem_cons.1 all
      exact ⟨[c], ⟨c, hc, rfl⟩, x, ⟨Nat.succ.inj size, all⟩, rfl⟩

theorem mem_upTo_iff {cs x : List Char} {n : Nat} : x ∈ (upTo n (oneOf cs)).matches' ↔
    1 ≤ x.length ∧ x.length ≤ n ∧ ∀ c ∈ x, c ∈ cs := by
  simp only [upTo, mem_sum_iff, mem_oneOf_pow_iff, List.mem_range]
  constructor
  · rintro ⟨k, hk, size, all⟩
    exact ⟨by omega, by omega, all⟩
  · rintro ⟨low, high, all⟩
    exact ⟨x.length - 1, by omega, by omega, all⟩

/-- The ten digits of ASCII are no more than these characters. -/
theorem mem_digits_iff {c : Char} : c ∈ "0123456789".toList ↔ Text.isAsciiDigit c = true := by
  constructor
  · exact fun hc => List.all_eq_true.1 (by decide : "0123456789".toList.all Text.isAsciiDigit) c hc
  · intro digit
    rw [Text.isAsciiDigit, Bool.and_eq_true, decide_eq_true_eq, decide_eq_true_eq] at digit
    have range : ∀ n < 10, Char.ofNat (0x30 + n) ∈ "0123456789".toList := by decide
    have found := range (c.toNat - 0x30) (by omega)
    rwa [Nat.add_sub_cancel' digit.1, Char.ofNat_toNat] at found

theorem mem_digitGroup_iff {x : List Char} : x ∈ digitGroup.matches' ↔ isLastGroup x = true := by
  simp only [digitGroup, mem_upTo_iff, mem_digits_iff, isLastGroup, Bool.and_eq_true,
    decide_eq_true_eq, List.all_eq_true, and_assoc]

theorem mem_pattern_iff {x : List Char} : x ∈ pattern.matches' ↔
    ∃ a b c d, isLastGroup a = true ∧ isLastGroup b = true ∧ isLastGroup c = true ∧
      isLastGroup d = true ∧ x = a ++ '.' :: (b ++ '.' :: (c ++ '.' :: d)) := by
  have pointed : ∀ {y}, y ∈ (digitGroup * .char '.').matches' ↔
      ∃ a, isLastGroup a = true ∧ y = a ++ ['.'] := by
    intro y
    rw [RegularExpression.matches'_mul, Language.mem_mul]
    constructor
    · rintro ⟨a, ha, _, rfl, rfl⟩
      exact ⟨a, mem_digitGroup_iff.1 ha, rfl⟩
    · rintro ⟨a, ha, rfl⟩
      exact ⟨a, mem_digitGroup_iff.2 ha, _, rfl, rfl⟩
  rw [pattern, RegularExpression.matches'_mul, RegularExpression.matches'_pow]
  simp only [pow_succ, pow_zero, one_mul, Language.mem_mul, pointed, mem_digitGroup_iff]
  constructor
  · rintro ⟨_, ⟨_, ⟨_, ⟨a, ha, rfl⟩, _, ⟨b, hb, rfl⟩, rfl⟩, _, ⟨c, hc, rfl⟩, rfl⟩, d, hd, rfl⟩
    exact ⟨a, b, c, d, ha, hb, hc, hd, by simp⟩
  · rintro ⟨a, b, c, d, ha, hb, hc, hd, rfl⟩
    exact ⟨_, ⟨_, ⟨_, ⟨a, ha, rfl⟩, _, ⟨b, hb, rfl⟩, rfl⟩, _, ⟨c, hc, rfl⟩, rfl⟩, d, hd, by simp⟩

/-! ## Valid addresses -/

/-- An address is its subnet, a point and its last group. -/
theorem Dotted.subnet_append {s : String} (h : Dotted s) :
    ∃ last, (groups s).getLast? = some last ∧ subnet s ++ "." ++ last = s := by
  obtain ⟨a, rest, parts⟩ := List.exists_of_length_succ _ h.1
  have three := h.1
  rw [parts] at three
  obtain ⟨b, c, d, rfl⟩ := List.length_eq_three.1 (Nat.succ.inj three)
  refine ⟨d, by rw [parts]; rfl, ?_⟩
  have front : subnet s = ".".intercalate ((groups s).take 3) := rfl
  calc subnet s ++ "." ++ d
      = ".".intercalate [a, b, c] ++ "." ++ d := by rw [front, parts]; rfl
    _ = ".".intercalate (groups s) := by
      rw [parts]
      simp [String.intercalate_cons_cons, String.append_assoc]
    _ = s := Text.intercalate_split '.' s

/-- The valid addresses are the texts of four groups of one to three digits between points, which
are those that the regular expression matches as a whole.  Each is its subnet, a point and its last
group, and two of them are in one subnet if their first three groups are the same. -/
theorem isValid_grammar (s : String) :
    (isValid s = true ↔ Dotted s) ∧
    (isValid s = true ↔ s.toList ∈ pattern.matches') ∧
    (isValid s = true → ∃ last, (groups s).getLast? = some last ∧ subnet s ++ "." ++ last = s) ∧
    ∀ t, isValid s = true → isValid t = true →
      (subnet s = subnet t ↔ (groups s).take 3 = (groups t).take 3) := by
  refine ⟨isValid_iff, ?_, fun valid => (isValid_iff.1 valid).subnet_append,
    fun _ _ _ => subnet_eq_iff⟩
  rw [isValid_iff_exists, mem_pattern_iff]

/-- Groups are not checked for their size, and the last one does not count for the subnet. -/
theorem isValid_grammar_of_large_groups :
    (∃ last, (groups "999.1.1.1").getLast? = some last ∧
      subnet "999.1.1.1" ++ "." ++ last = "999.1.1.1") ∧
    (groups "999.1.1.1").take 3 = (groups "999.1.1.22").take 3 ∧
    subnet "999.1.1.1" = subnet "999.1.1.22" := by
  obtain ⟨-, -, reads, agree⟩ := isValid_grammar "999.1.1.1"
  have first : isValid "999.1.1.1" = true := by decide
  have same : (groups "999.1.1.1").take 3 = (groups "999.1.1.22").take 3 := by decide
  exact ⟨reads first, same, (agree "999.1.1.22" first (by decide)).2 same⟩

/-- Digits of another script are no digits of an address, and nothing may follow it. -/
example : isValid "1.1.1.\u0661" = false ∧ isValid "1.1.1.1\n" = false := by decide

end NetLab.Address
