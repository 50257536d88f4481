import Mathlib.Data.List.DropRight
import NetLab.Proofs.Port
import NetLab.Proofs.Text.Blank

set_option autoImplicit false

/-!
# Names of ports

A name of any form gives a port by the number that it ends in (`EndsIn`).  The number that a port
is named by ends its name and its short name, and the position is read back from either.
-/

namespace NetLab.Port

/-! ## The number at the end -/

/-- The name ends in these digits: as many, of any script, as stand there.  One final line break
may follow them. -/
structure EndsIn (ifname : String) (digits : List Char) : Prop where
  ne_nil : digits ≠ []
  isDigit : ∀ c ∈ digits, Text.isDigit c = true
  maximal : ∃ front rest, ifname.toList = front ++ digits ++ rest ∧
    (∀ c, front.getLast? = some c → Text.isDigit c = false) ∧ (rest = [] ∨ rest = ['\n'])

theorem trailingDigits_append_newline (cs : List Char) :
    trailingDigits (cs ++ ['\n']) = cs.rtakeWhile Text.isDigit := by
  rw [trailingDigits, List.reverse_append]
  rfl

theorem trailingDigits_of_getLast? {cs : List Char} (h : cs.getLast? ≠ some '\n') :
    trailingDigits cs = cs.rtakeWhile Text.isDigit := by
  rw [trailingDigits]
  split
  · next r hr =>
    rw [List.getLast?_eq_head?_reverse, hr] at h
    exact absurd rfl h
  · rfl

theorem rtakeWhile_append {p : Char → Bool} {front digits : List Char}
    (all : ∀ c ∈ digits, p c = true) (stop : ∀ c, front.getLast? = some c → p c = false) :
    (front ++ digits).rtakeWhile p = digits := by
  have none_before : front.reverse.takeWhile p = [] := by
    cases hr : front.reverse with
    | nil => rfl
    | cons c r =>
      have last : front.getLast? = some c := by rw [List.getLast?_eq_head?_reverse, hr]; rfl
      rw [List.takeWhile_cons_of_neg (by simp [stop c last])]
  rw [List.rtakeWhile, List.reverse_append,
    List.takeWhile_append_of_pos fun c hc => all c (List.mem_reverse.1 hc), none_before,
    List.append_nil, List.reverse_reverse]

theorem append_rtakeWhile (p : Char → Bool) (cs : List Char) :
    ∃ front, cs = front ++ cs.rtakeWhile p ∧ ∀ c, front.getLast? = some c → p c = false := by
  refine ⟨cs.rdropWhile p, (List.rdropWhile_append_rtakeWhile).symm, fun c hc => ?_⟩
  have hne : cs.rdropWhile p ≠ [] := by
    intro hnil
    rw [hnil] at hc
    cases hc
  have hlast := List.rdropWhile_last_not p cs hne
  rw [List.getLast?_eq_some_getLast hne, Option.some.injEq] at hc
  rw [hc] at hlast
  exact Bool.eq_false_iff.2 hlast

/-- The digits that end a name are the ones that are looked for. -/
theorem endsIn_iff {ifname : String} {digits : List Char} :
    EndsIn ifname digits ↔ digits ≠ [] ∧ trailingDigits ifname.toList = digits := by
  constructor
  · rintro ⟨hne, hdigit, front, rest, hlist, stop, rfl | rfl⟩
    · refine ⟨hne, ?_⟩
      have last : (front ++ digits).getLast? = some (digits.getLast hne) := by
        rw [List.getLast?_append_of_ne_nil _ hne, List.getLast?_eq_some_getLast hne]
      rw [hlist, List.append_nil, trailingDigits_of_getLast?, rtakeWhile_append hdigit stop]
      intro newline
      rw [last, Option.some.injEq] at newline
      have := hdigit _ (List.getLast_mem hne)
      rw [newline] at this
      exact absurd this (by decide)
    · exact ⟨hne, by rw [hlist, trailingDigits_append_newline, rtakeWhile_append hdigit stop]⟩
  · rintro ⟨hne, rfl⟩
    refine ⟨hne, isDigit_of_mem_trailingDigits, ?_⟩
    by_cases hlast : ifname.toList.getLast? = some '\n'
    · obtain ⟨body, hbody⟩ := List.getLast?_eq_some_iff.1 hlast
      obtain ⟨front, hfront, stop⟩ := append_rtakeWhile Text.isDigit body
      refine ⟨front, ['\n'], ?_, stop, .inr rfl⟩
      rw [hbody, trailingDigits_append_newline, ← hfront]
    · obtain ⟨front, hfront, stop⟩ := append_rtakeWhile Text.isDigit ifname.toList
      refine ⟨front, [], ?_, stop, .inl rfl⟩
      rw [trailingDigits_of_getLast? hlast, List.append_nil, ← hfront]

/-- The position that a name gives is one less than the number that it ends in. -/
theorem position?_of_endsIn {ifname : String} {digits : List Char} (h : EndsIn ifname digits)
    (short : digits.length ≤ Numeral.maxDigits) :
    position? ifname = .ok (some ((Text.numberOf digits : Int) - 1)) := by
  obtain ⟨hne, rfl⟩ := endsIn_iff.1 h
  rw [position?]
  split
  · next heq => exact absurd heq hne
  · rw [readNumeral, Numeral.parse_digits hne isDigit_of_mem_trailingDigits,
      if_neg (Nat.not_lt.2 short)]
    rfl

/-- A name that ends in no number gives no position. -/
theorem position?_of_not_endsIn {ifname : String} (h : ∀ digits, ¬ EndsIn ifname digits) :
    position? ifname = .ok none := by
  rw [position?]
  split
  · rfl
  · next hne => exact absurd (endsIn_iff.2 ⟨hne, rfl⟩) (h _)

/-! ## The names of a port -/

theorem toList_toString_succ (k : Nat) :
    (toString ((k : Int) + 1)).toList = Nat.toDigits 10 (k + 1) := by
  have : (k : Int) + 1 = (k + 1 : Nat) := rfl
  rw [this, Int.toString_eq_repr, Int.repr_eq_if, if_pos (Int.natCast_nonneg _), Int.toNat_natCast,
    Nat.toList_repr]

theorem isDigit_of_mem_toDigits {n : Nat} : ∀ c ∈ Nat.toDigits 10 n, c.isDigit = true :=
  fun _ hc => Nat.isDigit_of_mem_toDigits (by decide) (by decide) hc

/-- The digits of a number write it. -/
theorem numberOf_toDigits (n : Nat) : Text.numberOf (Nat.toDigits 10 n) = n := by
  have known : ∀ c ∈ Nat.toDigits 10 n, Text.digitValue? c = some (c.toNat - 0x30) :=
    fun c hc => Text.digitValue?_of_isDigit (isDigit_of_mem_toDigits c hc)
  rw [Text.numberOf, List.filterMap_eq_map_iff_forall_eq_some.2 known, Text.ofDigits_map_toNat,
    Nat.ofDigitChars_ten_toDigits]

theorem length_toDigits_le {n : Nat} (h : n < 10 ^ Numeral.maxDigits) :
    (Nat.toDigits 10 n).length ≤ Numeral.maxDigits :=
  (Nat.length_toDigits_le_iff (by decide) (by decide)).2 h

/-- A number behind a slash is the number at the end. -/
theorem endsIn_toDigits {ifname : String} {front : List Char} {n : Nat}
    (h : ifname.toList = front ++ Nat.toDigits 10 n) (slash : front.getLast? = some '/') :
    EndsIn ifname (Nat.toDigits 10 n) := by
  refine ⟨Nat.toDigits_ne_nil, fun c hc => Text.isDigit_of_isDigit (isDigit_of_mem_toDigits c hc),
    front, [], by rw [h, List.append_nil], fun c hc => ?_, .inl rfl⟩
  obtain rfl := Option.some.inj (slash.symm.trans hc)
  rfl

theorem nameOf_eq (number : String) : nameOf number = "GigabitEthernet0/" ++ number := rfl

theorem toList_name (k : Nat) :
    (name k).toList = "GigabitEthernet0/".toList ++ Nat.toDigits 10 (k + 1) := by
  rw [name, nameOf_eq, String.toList_append, toList_toString_succ]

theorem toList_shortNameAt (k : Nat) :
    (shortNameAt k).toList = "Gi0/".toList ++ Nat.toDigits 10 (k + 1) := by
  rw [shortNameAt, shortNameOf, String.toList_append, toList_toString_succ]

theorem endsIn_name (k : Nat) : EndsIn (name k) (Nat.toDigits 10 (k + 1)) :=
  endsIn_toDigits (toList_name k) (by decide)

theorem endsIn_shortNameAt (k : Nat) : EndsIn (shortNameAt k) (Nat.toDigits 10 (k + 1)) :=
  endsIn_toDigits (toList_shortNameAt k) (by decide)

/-- No two ports have the same name. -/
theorem name_injective {i j : Nat} (h : name i = name j) : i = j := by
  have digits : Nat.toDigits 10 (i + 1) = Nat.toDigits 10 (j + 1) := by
    rw [← (endsIn_iff.1 (endsIn_name i)).2, ← (endsIn_iff.1 (endsIn_name j)).2, h]
  have number := congrArg Text.numberOf digits
  rw [numberOf_toDigits, numberOf_toDigits] at number
  exact Nat.succ.inj number

/-! ## Short forms -/

section

variable {old new : List Char}

theorem replaceFrom_skip (s r : List Char) :
    replaceFrom old new s.length (s ++ r) = replaceFrom old new 0 r := by
  induction s with
  | nil => rfl
  | cons c s ih => rw [List.length_cons, List.cons_append, replaceFrom, ih]

/-- What stands in front is replaced, and the rest is looked through. -/
theorem replaceFrom_append (hne : old ≠ []) (r : List Char) :
    replaceFrom old new 0 (old ++ r) = new ++ replaceFrom old new 0 r := by
  obtain ⟨c, s, rfl⟩ := List.exists_cons_of_ne_nil hne
  have found : (c :: s).isPrefixOf (c :: (s ++ r)) = true := by
    rw [List.isPrefixOf_iff_prefix]
    exact List.prefix_append (c :: s) r
  rw [List.cons_append, replaceFrom, if_pos found, List.length_cons, Nat.add_sub_cancel,
    replaceFrom_skip]

/-- Where the first character does not occur, nothing is replaced. -/
theorem replaceFrom_of_not_mem {c : Char} {s cs : List Char} (h : c ∉ cs) :
    replaceFrom (c :: s) new 0 cs = cs := by
  induction cs with
  | nil => rfl
  | cons d cs ih =>
    obtain ⟨hd, hcs⟩ := not_or.1 (mt List.mem_cons.2 h)
    have different : (c :: s).isPrefixOf (d :: cs) = false := by
      rw [List.isPrefixOf_cons_cons, beq_false_of_ne hd, Bool.false_and]
    rw [replaceFrom, different, if_neg Bool.false_ne_true, ih hcs]

end

theorem not_mem_toDigits {c : Char} (h : c.isDigit = false) (n : Nat) : c ∉ Nat.toDigits 10 n := by
  intro hc
  rw [isDigit_of_mem_toDigits c hc] at h
  cases h

/-- The short form of the name of a port is its short name. -/
theorem shorten_name (k : Nat) : shorten (name k) = shortNameAt k := by
  have full : "GigabitEthernet0/".toList = "GigabitEthernet".toList ++ ['0', '/'] := by decide
  have brief : "Gi0/".toList = "Gi".toList ++ ['0', '/'] := by decide
  have first : "GigabitEthernet".toList = 'G' :: "igabitEthernet".toList := by decide
  have gigabit : replaceAll "GigabitEthernet" "Gi" (name k) = shortNameAt k := by
    have plain : 'G' ∉ ['0', '/'] ++ Nat.toDigits 10 (k + 1) := by
      rw [List.mem_append]
      exact not_or.2 ⟨by decide, not_mem_toDigits rfl _⟩
    have rest : replaceFrom "GigabitEthernet".toList "Gi".toList 0
        (['0', '/'] ++ Nat.toDigits 10 (k + 1)) = ['0', '/'] ++ Nat.toDigits 10 (k + 1) := by
      rw [first]
      exact replaceFrom_of_not_mem plain
    have hne : "GigabitEthernet".toList ≠ [] := by rw [first]; exact List.cons_ne_nil _ _
    rw [← String.toList_inj, replaceAll, String.toList_ofList, toList_name, toList_shortNameAt,
      full, brief, List.append_assoc, List.append_assoc, replaceFrom_append hne, rest]
  have fast : 'F' ∉ (shortNameAt k).toList := by
    rw [toList_shortNameAt, List.mem_append]
    exact not_or.2 ⟨by decide, not_mem_toDigits rfl _⟩
  have initial : "FastEthernet".toList = 'F' :: "astEthernet".toList := by decide
  rw [shorten, gigabit, ← String.toList_inj, replaceAll, String.toList_ofList, initial]
  exact replaceFrom_of_not_mem fast

/-! ## Names as they are typed -/

/-- The word stands for `GigabitEthernet` in front of a number: ASCII letters, of which the first is
a `g` in either case. -/
structure IsGigabit (w : String) : Prop where
  first : w.toList.head? = some 'g' ∨ w.toList.head? = some 'G'
  letters : ∀ c ∈ w.toList, c.isAlpha = true

theorem isAlpha_iff_toNat {c : Char} : c.isAlpha = true ↔
    (0x41 ≤ c.toNat ∧ c.toNat ≤ 0x5A) ∨ (0x61 ≤ c.toNat ∧ c.toNat ≤ 0x7A) := by
  change (decide (0x41 ≤ c.val ∧ c.val ≤ 0x5A) || 0x61 ≤ c.val && c.val ≤ 0x7A) = true ↔ _
  simp [UInt32.le_iff_toNat_le]

theorem isTypeLetter_of_isAlpha {c : Char} (h : c.isAlpha = true) : isTypeLetter c = true := by
  rw [isTypeLetter, Bool.or_eq_true, Bool.or_eq_true, Bool.and_eq_true, Bool.and_eq_true]
  simp only [decide_eq_true_eq]
  exact .inl (isAlpha_iff_toNat.1 h)

theorem isBlank_of_isAlpha {c : Char} (h : c.isAlpha = true) : Text.isBlank c = false := by
  rcases isAlpha_iff_toNat.1 h with ⟨low, high⟩ | ⟨low, high⟩
  · exact Text.isBlank_of_visible (by omega) (by omega)
  · exact Text.isBlank_of_visible (by omega) (by omega)

theorem isBlank_of_isDigit {c : Char} (h : c.isDigit = true) : Text.isBlank c = false := by
  obtain ⟨low, high⟩ : 0x30 ≤ c.toNat ∧ c.toNat ≤ 0x39 := Char.isDigit_iff_toNat.1 h
  exact Text.isBlank_of_visible (by omega) (by omega)

theorem toList_number (n : Nat) : (toString n).toList = Nat.toDigits 10 n := by
  rw [Nat.toString_eq_repr, Nat.toList_repr]

theorem not_mem_number {c : Char} (h : c.isDigit = false) (n : Nat) :
    c ∉ (toString n).toList := by
  rw [toList_number]
  exact not_mem_toDigits h n

theorem notBlank_number (n : Nat) : ∀ c ∈ (toString n).toList, Text.isBlank c = false := by
  rw [toList_number]
  exact fun c hc => isBlank_of_isDigit (isDigit_of_mem_toDigits c hc)

theorem words_number (n : Nat) : Text.words (toString n) = [toString n] := by
  refine Text.words_of_notBlank (fun empty => ?_) (notBlank_number n)
  have digits := toList_number n
  rw [empty] at digits
  exact Nat.toDigits_ne_nil digits.symm

theorem toList_slot (n : Nat) : ("0/" ++ toString n).toList = '0' :: '/' :: Nat.toDigits 10 n := by
  rw [String.toList_append, toList_number]
  rfl

theorem notBlank_slot (n : Nat) : ∀ c ∈ ("0/" ++ toString n).toList, Text.isBlank c = false := by
  rw [String.toList_append]
  intro c hc
  have slash : ("0/".toList.all fun c => !Text.isBlank c) = true := by decide
  rcases List.mem_append.1 hc with hc | hc
  · simpa using List.all_eq_true.1 slash c hc
  · exact notBlank_number n c hc

namespace IsGigabit

variable {w : String}

theorem notBlank (h : IsGigabit w) : ∀ c ∈ w.toList, Text.isBlank c = false :=
  fun c hc => isBlank_of_isAlpha (h.letters c hc)

theorem ne_empty (h : IsGigabit w) : w ≠ "" := by
  rintro rfl
  obtain first | first := h.first
  · cases first
  · cases first

/-- The word with a number behind it is the name of the port of the number. -/
theorem normalize_eq (h : IsGigabit w) (k : Nat) :
    normalize (w ++ ("0/" ++ toString (k + 1))) = name k := by
  have notBlank : ∀ c ∈ (w ++ ("0/" ++ toString (k + 1))).toList, Text.isBlank c = false := by
    rw [String.toList_append]
    intro c hc
    exact (List.mem_append.1 hc).elim (h.notBlank c) (notBlank_slot (k + 1) c)
  obtain ⟨c, r, letters, first⟩ : ∃ c r, w.toList = c :: r ∧ (c = 'g' ∨ c = 'G') := by
    have first := h.first
    cases hw : w.toList with
    | nil =>
      rw [hw] at first
      rcases first with first | first <;> cases first
    | cons c r =>
      rw [hw, List.head?_cons, Option.some.injEq, Option.some.injEq] at first
      exact ⟨c, r, rfl, first⟩
  have rest : ∀ x ∈ r, isTypeLetter x = true := fun x hx =>
    isTypeLetter_of_isAlpha (h.letters x (by rw [letters]; exact List.mem_cons_of_mem _ hx))
  have full : "GigabitEthernet0/".toList = "GigabitEthernet".toList ++ ['0', '/'] := by decide
  have gigabit : (decide (c = 'g') || decide (c = 'G')) = true := by
    rcases first with rfl | rfl <;> rfl
  rw [← String.toList_inj, normalize, Text.trim_of_notBlank notBlank, String.toList_ofList,
    String.toList_append, letters, toList_slot, List.cons_append, expandType, if_pos gigabit,
    List.dropWhile_append_of_pos rest, List.dropWhile_cons_of_neg (by decide), toList_name, full,
    List.append_assoc]
  rfl

end IsGigabit

end NetLab.Port
