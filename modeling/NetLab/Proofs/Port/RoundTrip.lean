import NetLab.Proofs.Port.Name

set_option autoImplicit false

/-!
# One port under all its names

A name that is written in full is not changed by writing it in full again, whatever the text is
(`Port.normalize_normalize`): the type that is put in front begins and ends with a letter, so no
blank comes to an end of the text, and it is made of the letters that it is put in place of.  The
name of a port, its short name and the names that are typed for it are forms of one name, and the
position of the port is read back from them (`Port.names_round_trip`).
-/

namespace NetLab

namespace Text

/-- Nothing is stripped where neither end would be. -/
theorem strip_eq_self_iff {p : Char → Bool} {cs : List Char} : strip p cs = cs ↔
    (∀ c, cs.head? = some c → p c = false) ∧ ∀ c, cs.getLast? = some c → p c = false := by
  have front : cs.dropWhile p = cs ↔ ∀ c, cs.head? = some c → p c = false := by
    cases cs with
    | nil => simp
    | cons c cs => simp [List.dropWhile_eq_self_iff]
  have back : cs.rdropWhile p = cs ↔ ∀ c, cs.getLast? = some c → p c = false := by
    rw [List.rdropWhile_eq_self_iff]
    obtain rfl | ⟨ds, c, rfl⟩ := List.eq_nil_or_concat cs
    · simp
    · simp
  rw [← front, ← back, ← dropRightWhile_eq_rdropWhile]
  constructor
  · intro stripped
    have same : cs.dropWhile p = cs := by rw [← stripped, dropWhile_strip]
    exact ⟨same, by rwa [strip, same] at stripped⟩
  · rintro ⟨same, right⟩
    rw [strip, same, right]

end Text

namespace Port

/-! ## Names in full -/

theorem expandType_gigabit (r : List Char) : expandType ("GigabitEthernet".toList ++ r) =
    "GigabitEthernet".toList ++ r.dropWhile isTypeLetter := by
  have first : "GigabitEthernet".toList = 'G' :: "igabitEthernet".toList := by decide
  have letters : "igabitEthernet".toList.all isTypeLetter = true := by decide
  rw [first, List.cons_append, expandType, if_pos (by decide),
    List.dropWhile_append_of_pos (List.all_eq_true.1 letters), first, List.cons_append]

theorem expandType_fast (r : List Char) : expandType ("FastEthernet".toList ++ r) =
    "FastEthernet".toList ++ r.dropWhile isTypeLetter := by
  have first : "FastEthernet".toList = 'F' :: "astEthernet".toList := by decide
  have letters : "astEthernet".toList.all isTypeLetter = true := by decide
  rw [first, List.cons_append, expandType, if_neg (by decide), if_pos (by decide),
    List.dropWhile_append_of_pos (List.all_eq_true.1 letters), first, List.cons_append]

/-- What becomes of the letters in front: they are left, or one of two types takes their place. -/
theorem expandType_cases (cs : List Char) : expandType cs = cs ∨
    ∃ c r, cs = c :: r ∧ ∃ full ∈ ["GigabitEthernet".toList, "FastEthernet".toList],
      expandType cs = full ++ r.dropWhile isTypeLetter := by
  cases cs with
  | nil => exact .inl rfl
  | cons c r =>
    rw [expandType]
    split
    · exact .inr ⟨c, r, rfl, _, by simp, rfl⟩
    · split
      · exact .inr ⟨c, r, rfl, _, by simp, rfl⟩
      · exact .inl rfl

theorem expandType_expandType (cs : List Char) : expandType (expandType cs) = expandType cs := by
  obtain same | ⟨c, r, rfl, full, hfull, expanded⟩ := expandType_cases cs
  · rw [same, same]
  · rw [expanded]
    rcases List.mem_pair.1 hfull with rfl | rfl
    · rw [expandType_gigabit, List.dropWhile_idempotent]
    · rw [expandType_fast, List.dropWhile_idempotent]

/-- Writing the type in full puts no blank at an end. -/
theorem strip_expandType {cs : List Char} (h : Text.strip Text.isBlank cs = cs) :
    Text.strip Text.isBlank (expandType cs) = expandType cs := by
  obtain same | ⟨c, r, rfl, full, hfull, expanded⟩ := expandType_cases cs
  · rw [same, h]
  · have ends : (full.head?.all fun c => !Text.isBlank c) = true ∧
        (full.getLast?.all fun c => !Text.isBlank c) = true ∧ full ≠ [] := by
      rcases List.mem_pair.1 hfull with rfl | rfl
      · decide
      · decide
    simp only [Option.all_eq_true, Bool.not_eq_true'] at ends
    obtain ⟨head, last, ne⟩ := ends
    rw [expanded, Text.strip_eq_self_iff]
    constructor
    · rwa [List.head?_append_of_ne_nil _ ne]
    · intro d hd
      rw [List.getLast?_append] at hd
      obtain ⟨front, cut⟩ := List.dropWhile_suffix (l := r) isTypeLetter
      cases tail : (r.dropWhile isTypeLetter).getLast? with
      | none => exact last d (by rwa [tail, Option.none_or] at hd)
      | some e =>
        rw [tail, Option.some_or, Option.some.injEq] at hd
        obtain rfl := hd
        have whole : c :: r = (c :: front) ++ r.dropWhile isTypeLetter := by
          rw [List.cons_append, cut]
        refine (Text.strip_eq_self_iff.1 h).2 e ?_
        rw [whole, List.getLast?_append, tail, Option.some_or]

/-- Writing a name in full twice is writing it in full once. -/
theorem normalize_normalize (s : String) : normalize (normalize s) = normalize s := by
  have stripped : Text.strip Text.isBlank (Text.trim s).toList = (Text.trim s).toList := by
    rw [Text.trim, String.toList_ofList, Text.strip_strip]
  simp only [normalize, Text.trim, String.toList_ofList] at stripped ⊢
  rw [strip_expandType stripped, expandType_expandType]

/-! ## The names of a port -/

/-- The names of the port at a position stand for each other. -/
structure NamesAgree (k : Nat) : Prop where
  /-- The number of the port can be written. -/
  named : namesAt (.int k) = .ok [name k, shortNameAt k]
  position_name : position? (name k) = .ok (some (k : Int))
  position_short : position? (shortNameAt k) = .ok (some (k : Int))
  shorten : shorten (name k) = shortNameAt k
  normalize_name : normalize (name k) = name k
  normalize_short : normalize (shortNameAt k) = name k
  /-- As it is typed: any word that stands for the type, and the number behind it. -/
  normalize_typed : ∀ w, IsGigabit w → normalize (w ++ ("0/" ++ toString (k + 1))) = name k

theorem isGigabit_full : IsGigabit "GigabitEthernet" :=
  ⟨.inr (by decide), List.all_eq_true.1 (by decide)⟩

theorem isGigabit_brief : IsGigabit "Gi" := ⟨.inr (by decide), List.all_eq_true.1 (by decide)⟩

theorem typed_full (k : Nat) : "GigabitEthernet" ++ ("0/" ++ toString (k + 1)) = name k := by
  have full : "GigabitEthernet0/".toList = "GigabitEthernet".toList ++ ['0', '/'] := by decide
  rw [← String.toList_inj, String.toList_append, toList_slot, toList_name, full]
  simp

theorem typed_brief (k : Nat) : "Gi" ++ ("0/" ++ toString (k + 1)) = shortNameAt k := by
  have brief : "Gi0/".toList = "Gi".toList ++ ['0', '/'] := by decide
  rw [← String.toList_inj, String.toList_append, toList_slot, toList_shortNameAt, brief]
  simp

/-- The number at the end of a name, if it can be written at all, gives the position. -/
theorem position?_of_number {ifname : String} {k : Nat}
    (h : EndsIn ifname (Nat.toDigits 10 (k + 1))) (short : k + 1 < 10 ^ Numeral.maxDigits) :
    position? ifname = .ok (some (k : Int)) := by
  have before : ((k + 1 : Nat) : Int) - 1 = k := by omega
  rw [position?_of_endsIn h (length_toDigits_le short), numberOf_toDigits, before]

theorem namesAgree {k : Nat} (short : k + 1 < 10 ^ Numeral.maxDigits) : NamesAgree k where
  named := by
    have size : ((k : Int) + 1).natAbs = k + 1 := rfl
    rw [namesAt, numberAt, writeNumeral, size, Nat.pow_eq, if_pos short]
    rfl
  position_name := position?_of_number (endsIn_name k) short
  position_short := position?_of_number (endsIn_shortNameAt k) short
  shorten := shorten_name k
  normalize_name := by
    have typed := isGigabit_full.normalize_eq k
    rwa [typed_full] at typed
  normalize_short := by
    have typed := isGigabit_brief.normalize_eq k
    rwa [typed_brief] at typed
  normalize_typed := fun _ hw => hw.normalize_eq k

/-- Writing a name in full is done once for any text, and the names of a port stand for each other
as long as its number can be written. -/
theorem names_round_trip : (∀ s, normalize (normalize s) = normalize s) ∧
    ∀ k : Nat, k + 1 < 10 ^ Numeral.maxDigits → NamesAgree k :=
  ⟨normalize_normalize, fun _ short => namesAgree short⟩

/-- The third port. -/
theorem names_round_trip_of_third : normalize (normalize "gig0/3") = normalize "gig0/3" ∧
    position? "Gi0/3" = .ok (some 2) ∧ normalize "Gi0/3" = "GigabitEthernet0/3" ∧
    normalize ("gIg" ++ ("0/" ++ toString (2 + 1))) = "GigabitEthernet0/3" := by
  have short : 2 + 1 < 10 ^ Numeral.maxDigits :=
    Nat.lt_of_lt_of_le (by decide : 2 + 1 < 10 ^ 1) (Nat.pow_le_pow_right (by decide) (by decide))
  obtain ⟨again, agree⟩ := names_round_trip
  have third := agree 2 short
  have written : name (2 : Nat) = "GigabitEthernet0/3" ∧ shortNameAt (2 : Nat) = "Gi0/3" := by
    decide
  rw [← written.1, ← written.2]
  exact ⟨again _, third.position_short, third.normalize_short,
    third.normalize_typed "gIg" ⟨.inl (by decide), List.all_eq_true.1 (by decide)⟩⟩

end Port

end NetLab
