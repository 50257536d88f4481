import NetLab.Console.Run
import NetLab.Proofs.Number.Numeral
import NetLab.Proofs.Schema.Accepted
import NetLab.Proofs.Text.Blank

set_option autoImplicit false

/-!
# The texts of VLAN ids

A VLAN id is typed in a command and stands as a key in the VLAN table of a document.  A command
takes any numeral in the range of VLAN ids; a table takes digits only.  So every key of a table can
be typed, and what can be typed is a key exactly if it has no plus sign and no underscore in it.
Without them it always is, and writes the same number (`Schema.vlanTable_accepts`).
-/

namespace NetLab

/-! ## Numerals above zero -/

namespace Text

/-- A character that does not only group or sign the digits of a number above zero. -/
def isPlain (c : Char) : Bool := c ≠ '+' && c ≠ '_'

/-- The text without plus signs and underscores. -/
def plain (s : String) : String := String.ofList (s.toList.filter isPlain)

theorem isPlain_of_isDigitLike {c : Char} (h : isDigitLike c = true) : isPlain c = true := by
  rw [isPlain, Bool.and_eq_true, decide_eq_true_eq, decide_eq_true_eq]
  constructor
  · rintro rfl
    exact absurd h (by decide)
  · rintro rfl
    exact absurd h (by decide)

theorem forall_isPlain_iff {cs : List Char} :
    (∀ c ∈ cs, isPlain c = true) ↔ '+' ∉ cs ∧ '_' ∉ cs := by
  simp only [isPlain, Bool.and_eq_true, decide_eq_true_eq]
  constructor
  · intro h
    exact ⟨fun hc => (h _ hc).1 rfl, fun hc => (h _ hc).2 rfl⟩
  · rintro ⟨plus, underscore⟩ c hc
    exact ⟨fun heq => plus (heq ▸ hc), fun heq => underscore (heq ▸ hc)⟩

theorem mem_plain {s : String} {c : Char} :
    c ∈ (plain s).toList ↔ c ∈ s.toList ∧ isPlain c = true := by
  rw [plain, String.toList_ofList, List.mem_filter]

theorem isDigitLike_of_isDigit {c : Char} (h : isDigit c = true) : isDigitLike c = true := by
  rw [isDigitLike, h, Bool.true_or]

end Text

namespace Numeral

variable {cs run rest : List Char} {ds : List Nat} {fresh : Bool}

/-- The characters are digits of these values, with underscores among them. -/
structure Spells (run : List Char) (ds : List Nat) : Prop where
  letters : ∀ c ∈ run, Text.isDigit c = true ∨ c = '_'
  values : (run.filter Text.isPlain).map Text.digitValue? = ds.map some

theorem Spells.nil : Spells [] [] := ⟨List.forall_mem_nil _, rfl⟩

theorem Spells.cons_digit {c : Char} {d : Nat} (h : Spells run ds)
    (hd : Text.digitValue? c = some d) : Spells (c :: run) (d :: ds) := by
  have digit : Text.isDigit c = true := by rw [Text.isDigit, hd, Option.isSome_some]
  have kept : Text.isPlain c = true :=
    Text.isPlain_of_isDigitLike (Text.isDigitLike_of_isDigit digit)
  refine ⟨List.forall_mem_cons.2 ⟨Or.inl digit, h.letters⟩, ?_⟩
  rw [List.filter_cons_of_pos kept, List.map_cons, List.map_cons, hd, h.values]

theorem Spells.cons_underscore (h : Spells run ds) : Spells ('_' :: run) ds :=
  ⟨List.forall_mem_cons.2 ⟨Or.inr rfl, h.letters⟩, h.values⟩

theorem Spells.digitValue? (h : Spells run ds) {c : Char} (hc : c ∈ run.filter Text.isPlain) :
    Text.digitValue? c = some ((Text.digitValue? c).getD 0) := by
  have value : Text.digitValue? c ∈ ds.map some := by
    rw [← h.values]
    exact List.mem_map_of_mem hc
  obtain ⟨d, -, hd⟩ := List.mem_map.1 value
  rw [← hd, Option.getD_some]

theorem Spells.map_value (h : Spells run ds) :
    (run.filter Text.isPlain).map (fun c => (Text.digitValue? c).getD 0) = ds := by
  have values := congrArg (List.map fun d => d.getD 0) h.values
  rw [List.map_map, List.map_map, Function.comp_def, Function.comp_def] at values
  simpa using values

/-- What is read is what the characters in front spell, and a digit is where one must come. -/
theorem digitsFrom_eq_some (h : digitsFrom fresh cs = some (ds, rest)) :
    ∃ run, cs = run ++ rest ∧ Spells run ds ∧ (fresh = true → ds ≠ []) := by
  induction cs generalizing fresh ds with
  | nil =>
    cases fresh with
    | true => cases h
    | false =>
      cases h
      exact ⟨[], rfl, .nil, fun no => absurd no Bool.false_ne_true⟩
  | cons c cs ih =>
    rw [digitsFrom] at h
    split at h
    · next d hd =>
      obtain ⟨p, hp, heq⟩ := Option.map_eq_some_iff.1 h
      obtain ⟨rfl, rfl⟩ := Prod.mk.inj heq
      obtain ⟨run, rfl, spells, -⟩ := ih hp
      exact ⟨c :: run, rfl, spells.cons_digit hd, fun _ => List.cons_ne_nil _ _⟩
    · split at h
      · next underscore =>
        cases fresh with
        | true => cases h
        | false =>
          obtain ⟨run, rfl, spells, -⟩ := ih h
          obtain rfl := underscore
          exact ⟨'_' :: run, rfl, spells.cons_underscore, fun no => absurd no Bool.false_ne_true⟩
      · cases fresh with
        | true => cases h
        | false =>
          cases h
          exact ⟨[], rfl, .nil, fun no => absurd no Bool.false_ne_true⟩

theorem takeSign_cases (cs : List Char) :
    takeSign cs = (false, cs) ∨ (∃ r, cs = '+' :: r ∧ takeSign cs = (false, r)) ∨
      (takeSign cs).1 = true := by
  rw [takeSign.eq_def]
  split
  · exact Or.inr (Or.inr rfl)
  · next r => exact Or.inr (Or.inl ⟨r, rfl, rfl⟩)
  · exact Or.inl rfl

/-- A numeral is read as its digits say, if there are not too many, and with blanks behind them at
most. -/
theorem read_eq_ok {n : Int} (h : read cs = .ok n) :
    ∃ ds rest, digitsFrom true (takeSign cs).2 = some (ds, rest) ∧ ds.length ≤ maxDigits ∧
      rest.all Text.isMargin = true ∧
      n = if (takeSign cs).1 then -(Text.ofDigits ds : Int) else Text.ofDigits ds := by
  rw [read] at h
  split at h
  · cases h
  · next ds rest hds =>
    split at h
    · cases h
    · next short =>
      split at h
      · next hrest => exact ⟨ds, rest, hds, Nat.le_of_not_lt short, hrest, (Except.ok.inj h).symm⟩
      · cases h

/-- Where nothing is a margin, the digits that are read go up to the end. -/
theorem spells_of_digitsFrom (hcs : ∀ c ∈ cs, Text.isMargin c = false)
    (h : digitsFrom true cs = some (ds, rest)) (hrest : rest.all Text.isMargin = true) :
    Spells cs ds ∧ ds ≠ [] := by
  obtain ⟨run, hrun, spells, hne⟩ := digitsFrom_eq_some h
  have done : rest = [] := by
    rw [List.eq_nil_iff_forall_not_mem]
    intro c hc
    have margin := List.all_eq_true.1 hrest c hc
    rw [hcs c (hrun ▸ List.mem_append_right run hc)] at margin
    cases margin
  rw [done, List.append_nil] at hrun
  rw [hrun]
  exact ⟨spells, hne rfl⟩

/-- Where nothing is blank, a number above zero is spelt up to the end, behind a plus sign at
most. -/
theorem exists_spells_of_parse {t : String} {n : Int}
    (ht : ∀ c ∈ t.toList, Text.isBlank c = false) (h : parse t = .ok n) (positive : 0 < n) :
    ∃ run ds, (t.toList = run ∨ t.toList = '+' :: run) ∧ Spells run ds ∧ ds ≠ [] ∧
      ds.length ≤ maxDigits ∧ n = Text.ofDigits ds := by
  have margin : ∀ c ∈ t.toList, Text.isMargin c = false := by
    intro c hc
    rw [Text.isMargin, ht c hc, Bool.false_and]
  have start : t.toList.dropWhile Text.isMargin = t.toList := by
    rw [List.dropWhile_eq_self_iff]
    intro hl
    simp [margin _ (List.getElem_mem hl)]
  rw [parse, start] at h
  obtain ⟨ds, rest, hds, short, hrest, rfl⟩ := read_eq_ok h
  -- a minus sign would make the number no greater than zero
  obtain sign | ⟨r, hr, sign⟩ | sign := takeSign_cases t.toList
  · rw [sign] at hds
    obtain ⟨spells, hne⟩ := spells_of_digitsFrom margin hds hrest
    exact ⟨t.toList, ds, Or.inl rfl, spells, hne, short, by rw [sign]; rfl⟩
  · rw [sign] at hds
    have inText : ∀ c ∈ r, Text.isMargin c = false :=
      fun c hc => margin c (hr ▸ List.mem_cons_of_mem _ hc)
    obtain ⟨spells, hne⟩ := spells_of_digitsFrom inText hds hrest
    exact ⟨r, ds, Or.inr hr, spells, hne, short, by rw [sign]; rfl⟩
  · rw [if_pos sign] at positive
    omega

/-- Digits that stand alone are read as the number that they write. -/
theorem parse_plain {t : String} (spells : Spells run ds)
    (ht : t.toList.filter Text.isPlain = run.filter Text.isPlain) (hne : ds ≠ [])
    (short : ds.length ≤ maxDigits) : parse (Text.plain t) = .ok (Text.ofDigits ds : Int) := by
  have text : (Text.plain t).toList = run.filter Text.isPlain := by
    rw [Text.plain, String.toList_ofList, ht]
  have someDigit : run.filter Text.isPlain ≠ [] := fun nil =>
    hne (by rw [← spells.map_value, nil, List.map_nil])
  obtain ⟨c, cs, hcons⟩ := List.exists_cons_of_ne_nil someDigit
  have digit : Text.isDigit c = true := by
    rw [Text.isDigit, spells.digitValue? (by rw [hcons]; exact List.mem_cons_self ..),
      Option.isSome_some]
  have start : (c :: cs).dropWhile Text.isMargin = c :: cs :=
    List.dropWhile_cons_of_neg (by simp [Text.isMargin_of_digit digit])
  rw [parse, text, hcons, start, read, takeSign_of_digit digit, ← hcons]
  dsimp only
  rw [digitsFrom_of_values (fun c hc => spells.digitValue? hc) fun _ => someDigit, spells.map_value]
  dsimp only
  rw [if_neg (Nat.not_lt.2 short), List.all_nil, if_pos rfl, if_neg Bool.false_ne_true]

end Numeral

/-! ## What is typed -/

theorem readVlan_eq_some {t : String} {v : Int} :
    readVlan t = some v ↔ readNumeral t = .ok v ∧ minVlan ≤ v ∧ v ≤ maxVlan := by
  rw [readVlan, readNumeral]
  cases Numeral.parse t with
  | error r => simp
  | ok n =>
    dsimp only
    rw [Option.ite_none_right_eq_some, Bool.and_eq_true, decide_eq_true_eq, decide_eq_true_eq]
    constructor
    · rintro ⟨range, h⟩
      obtain rfl := Option.some.inj h
      exact ⟨rfl, range⟩
    · rintro ⟨h, range⟩
      obtain rfl := Except.ok.inj h
      exact ⟨range, rfl⟩

theorem parse_of_readNumeral {s : String} {n : Int} (h : readNumeral s = .ok n) :
    Numeral.parse s = .ok n := by
  rw [readNumeral] at h
  split at h
  · next heq => rw [heq, Except.ok.inj h]
  · cases h

/-- A VLAN id that was typed without blanks is spelt up to the end, behind a plus sign at most. -/
theorem exists_spells_of_readVlan {t : String} {v : Int}
    (ht : ∀ c ∈ t.toList, Text.isBlank c = false) (h : readVlan t = some v) :
    ∃ run ds, (t.toList = run ∨ t.toList = '+' :: run) ∧ Numeral.Spells run ds ∧ ds ≠ [] ∧
      ds.length ≤ Numeral.maxDigits ∧ v = Text.ofDigits ds := by
  obtain ⟨hv, low, -⟩ := readVlan_eq_some.1 h
  exact Numeral.exists_spells_of_parse ht (parse_of_readNumeral hv) low

/-- Without plus signs and underscores it is still typed, and the same VLAN id. -/
theorem readVlan_plain {t : String} {v : Int} (ht : ∀ c ∈ t.toList, Text.isBlank c = false)
    (h : readVlan t = some v) : readVlan (Text.plain t) = some v := by
  obtain ⟨run, ds, signed, spells, hne, short, rfl⟩ := exists_spells_of_readVlan ht h
  obtain ⟨-, range⟩ := readVlan_eq_some.1 h
  have same : t.toList.filter Text.isPlain = run.filter Text.isPlain := by
    rcases signed with heq | heq
    · rw [heq]
    · rw [heq, List.filter_cons_of_neg (by decide)]
  rw [readVlan_eq_some, readNumeral, Numeral.parse_plain spells same hne short]
  exact ⟨rfl, range⟩

/-! ## What stands as a key -/

namespace Schema

theorem vlanKeyFault_eq_none_iff {key : String} : vlanKeyFault key = none ↔
    (key ≠ "" ∧ ∀ c ∈ key.toList, Text.isDigitLike c = true) ∧ ∃ v, readVlan key = some v := by
  have like : (key = "" || !key.toList.all Text.isDigitLike) = false ↔
      key ≠ "" ∧ ∀ c ∈ key.toList, Text.isDigitLike c = true := by
    rw [Bool.or_eq_false_iff, decide_eq_false_iff_not, Bool.not_eq_false', List.all_eq_true]
  rw [← like, vlanKeyFault]
  constructor
  · intro h
    split at h
    · cases h
    · next digits =>
      split at h
      · cases h
      · next v hv =>
        refine ⟨by simpa using digits, v, readVlan_eq_some.2 ⟨hv, ?_⟩⟩
        split at h
        · next range => simpa using range
        · cases h
  · rintro ⟨digits, v, hv⟩
    obtain ⟨read, low, high⟩ := readVlan_eq_some.1 hv
    rw [if_neg (by rw [digits]; exact Bool.false_ne_true), read]
    simp [low, high]

/-- Where nothing is blank, what can be typed is a key exactly if it is plain. -/
theorem vlanKeyFault_eq_none_iff_plain {key : String}
    (hkey : ∀ c ∈ key.toList, Text.isBlank c = false) : vlanKeyFault key = none ↔
      (∃ v, readVlan key = some v) ∧ ∀ c ∈ key.toList, Text.isPlain c = true := by
  rw [vlanKeyFault_eq_none_iff]
  constructor
  · rintro ⟨⟨-, like⟩, typed⟩
    exact ⟨typed, fun c hc => Text.isPlain_of_isDigitLike (like c hc)⟩
  · rintro ⟨⟨v, hv⟩, plain⟩
    obtain ⟨run, ds, signed, spells, hne, -, -⟩ := exists_spells_of_readVlan hkey hv
    have unsigned : key.toList = run := by
      refine signed.resolve_right fun plus => ?_
      exact absurd (plain '+' (by rw [plus]; exact List.mem_cons_self ..)) (by decide)
    refine ⟨⟨?_, fun c hc => ?_⟩, v, hv⟩
    · rintro rfl
      obtain rfl : run = [] := unsigned.symm
      exact hne (List.map_eq_nil_iff.1 spells.values.symm)
    · rcases spells.letters c (by rwa [← unsigned]) with digit | rfl
      · exact Text.isDigitLike_of_isDigit digit
      · exact absurd (plain '_' hc) (by decide)

theorem vlanTable_eq_table {v : Value} {t vs : List (String × String)} (h : vlanTable v = .ok vs)
    (ht : tableOf text v = .ok t) : vs = t := by
  rw [vlanTable, ht] at h
  dsimp only [Checked.andThen] at h
  split at h
  · cases h
  · cases h
    rfl

/-- A table is accepted exactly if every value is a text and every key is a VLAN id. -/
theorem exists_vlanTable_iff {es : List (String × Value)} :
    (∃ vs, vlanTable (.object es) = .ok vs) ↔
      ∀ e ∈ es, (∃ name, e.2 = .text name) ∧ vlanKeyFault e.1 = none := by
  constructor
  · rintro ⟨vs, h⟩ e he
    obtain ⟨t, ht, -⟩ := Checked.andThen_eq_ok.1 h
    have keys : vs = t := vlanTable_eq_table h ht
    obtain ⟨a, ha, key, text⟩ := exists_of_forall₂ (tableOf_eq_ok.1 ht).flip he
    rw [key]
    exact ⟨⟨a.2, text_eq_ok.1 text⟩, vlanTable_eq_ok h a (by rwa [keys])⟩
  · intro h
    have entry : ∀ e ∈ es, ∃ a : String × String, e.1 = a.1 ∧ text e.2 = .ok a.2 := by
      intro e he
      obtain ⟨⟨name, hname⟩, -⟩ := h e he
      exact ⟨(e.1, name), rfl, text_eq_ok.2 hname⟩
    obtain ⟨t, ht⟩ := exists_forall₂ entry
    refine ⟨t, Checked.andThen_eq_ok.2 ⟨t, tableOf_eq_ok.2 ht, ?_⟩⟩
    have faultless : (t.findSome? fun e => vlanKeyFault e.1) = none := by
      rw [List.findSome?_eq_none_iff]
      intro a ha
      obtain ⟨e, he, key, -⟩ := exists_of_forall₂ ht ha
      rw [← key]
      exact (h e he).2
    rw [faultless]

/-- The entries with one more among them make a VLAN table that is accepted. -/
def TakesKey (before after : List (String × Value)) (name key : String) : Prop :=
  ∃ vs, vlanTable (.object (before ++ (key, .text name) :: after)) = .ok vs

theorem takesKey_iff {before after : List (String × Value)} {name key : String}
    {vs : List (String × String)} (others : vlanTable (.object (before ++ after)) = .ok vs) :
    TakesKey before after name key ↔ vlanKeyFault key = none := by
  have fine := exists_vlanTable_iff.1 ⟨vs, others⟩
  rw [TakesKey, exists_vlanTable_iff]
  constructor
  · intro h
    exact (h (key, .text name) (by simp)).2
  · intro h e he
    rcases List.mem_append.1 he with he | he
    · exact fine e (List.mem_append_left _ he)
    · rcases List.mem_cons.1 he with rfl | he
      · exact ⟨⟨name, rfl⟩, h⟩
      · exact fine e (List.mem_append_right _ he)

/-- A text without blanks is a key of a VLAN table exactly if it can be typed and has no plus sign
and no underscore in it, and is then the same number in both places.  Whatever else can be typed is
a key, and the same number, once these are left out. -/
theorem vlanTable_accepts {before after : List (String × Value)} {vs : List (String × String)}
    (others : vlanTable (.object (before ++ after)) = .ok vs) (name : String) {t : String}
    (ht : ∀ c ∈ t.toList, Text.isBlank c = false) :
    (TakesKey before after name t ↔
        (∃ v, readVlan t = some v) ∧ '+' ∉ t.toList ∧ '_' ∉ t.toList) ∧
      (TakesKey before after name t → ∃ v, readVlan t = some v ∧ readNumeral t = .ok v) ∧
      ∀ v, readVlan t = some v →
        TakesKey before after name (Text.plain t) ∧ readNumeral (Text.plain t) = .ok v := by
  have key : ∀ t, TakesKey before after name t ↔ vlanKeyFault t = none :=
    fun t => takesKey_iff others
  have blankless : ∀ c ∈ (Text.plain t).toList, Text.isBlank c = false :=
    fun c hc => ht c (Text.mem_plain.1 hc).1
  simp only [key]
  refine ⟨?_, fun h => ?_, fun v hv => ⟨?_, ?_⟩⟩
  · rw [vlanKeyFault_eq_none_iff_plain ht, Text.forall_isPlain_iff]
  · obtain ⟨-, v, hv⟩ := vlanKeyFault_eq_none_iff.1 h
    exact ⟨v, hv, (readVlan_eq_some.1 hv).1⟩
  · rw [vlanKeyFault_eq_none_iff_plain blankless]
    exact ⟨⟨v, readVlan_plain ht hv⟩, fun c hc => (Text.mem_plain.1 hc).2⟩
  · exact (readVlan_eq_some.1 (readVlan_plain ht hv)).1

/-- An id with leading zeros, beside another key, and the same id with a sign and an underscore. -/
theorem vlanTable_accepts_zeros :
    (TakesKey [("1", .text "default")] [] "OFFICE" "+0_10" ↔
        (∃ v, readVlan "+0_10" = some v) ∧ '+' ∉ "+0_10".toList ∧ '_' ∉ "+0_10".toList) ∧
      TakesKey [("1", .text "default")] [] "OFFICE" "010" ∧ readNumeral "010" = .ok 10 := by
  have others : vlanTable (.object ([("1", .text "default")] ++ [])) = .ok [("1", "default")] := by
    decide +kernel
  have blankless : ∀ c ∈ "+0_10".toList, Text.isBlank c = false :=
    Text.notBlank_of_mem_words (s := "vlan +0_10") (by decide +kernel)
  have typed : readVlan "+0_10" = some 10 := by decide +kernel
  have bare : Text.plain "+0_10" = "010" := by decide +kernel
  have accepts := vlanTable_accepts others "OFFICE" blankless
  have taken := accepts.2.2 10 typed
  rw [bare] at taken
  exact ⟨accepts.1, taken⟩

/-- An id that is typed with a plus sign is no key. -/
theorem not_takesKey_plus :
    (∀ c ∈ "+10".toList, Text.isBlank c = false) ∧ readVlan "+10" = some 10 ∧
      ¬ TakesKey [] [] "OFFICE" "+10" := by
  have refused : vlanTable (.object [("+10", .text "OFFICE")]) =
      .complain (.broken "VLAN id out of range: '+10'") := by
    decide +kernel
  refine ⟨Text.notBlank_of_mem_words (s := "vlan +10") (by decide +kernel), by decide +kernel, ?_⟩
  rintro ⟨vs, accepted⟩
  rw [List.nil_append, refused] at accepted
  exact Checked.complain_ne_ok accepted

end Schema

end NetLab
