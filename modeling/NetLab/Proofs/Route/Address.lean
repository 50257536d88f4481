import Mathlib.Data.List.Basic
import NetLab.Proofs.Text.Split
import NetLab.Route.Address

set_option autoImplicit false

/-!
# The form of an address

An address is valid if it has four groups, and each of them is one to three digits
(`Address.isValid_iff`).  Two subnets are the same if the first three groups are
(`Address.subnet_eq_iff`).
-/

namespace NetLab.Address

/-- The groups of an address: what stands between its points. -/
def groups (s : String) : List String := Text.split '.' s

/-- One to three ASCII digits. -/
def IsGroup (g : String) : Prop :=
  1 ≤ g.length ∧ g.length ≤ 3 ∧ ∀ c ∈ g.toList, Text.isAsciiDigit c = true

/-- Four groups of one to three ASCII digits. -/
def Dotted (s : String) : Prop := (groups s).length = 4 ∧ ∀ g ∈ groups s, IsGroup g

theorem isGroup_ofList_iff {g : List Char} :
    IsGroup (String.ofList g) ↔ isLastGroup g = true := by
  simp [IsGroup, isLastGroup, and_assoc]

theorem point_notMem {g : List Char} (h : isLastGroup g = true) : '.' ∉ g := by
  intro point
  have digits : g.all Text.isAsciiDigit = true := (Bool.and_eq_true_iff.1 h).2
  exact absurd (List.all_eq_true.1 digits '.' point) (by decide)

/-- A group is taken with the point behind it. -/
theorem takeGroup_eq_some_iff {cs rest : List Char} :
    takeGroup cs = some rest ↔ ∃ g, isLastGroup g = true ∧ cs = g ++ '.' :: rest := by
  constructor
  · intro h
    rw [takeGroup] at h
    split at h
    · next after =>
      split at h
      · next size =>
        obtain rfl := Option.some.inj h
        have digits : (cs.takeWhile Text.isAsciiDigit).all Text.isAsciiDigit = true :=
          List.all_takeWhile
        refine ⟨cs.takeWhile Text.isAsciiDigit, ?_, ?_⟩
        · rw [isLastGroup, size, digits, Bool.and_self]
        · rw [← after, List.takeWhile_append_dropWhile]
      · cases h
    · cases h
  · rintro ⟨g, hg, rfl⟩
    obtain ⟨size, digits⟩ := Bool.and_eq_true_iff.1 hg
    have point : ¬ Text.isAsciiDigit '.' = true := by decide
    have all := List.all_eq_true.1 digits
    rw [takeGroup, List.takeWhile_append_of_pos all, List.dropWhile_append_of_pos all,
      List.takeWhile_cons_of_neg point, List.dropWhile_cons_of_neg point, List.append_nil]
    exact if_pos size

theorem isValid_iff_exists {s : String} : isValid s = true ↔
    ∃ a b c d, isLastGroup a = true ∧ isLastGroup b = true ∧ isLastGroup c = true ∧
      isLastGroup d = true ∧ s.toList = a ++ '.' :: (b ++ '.' :: (c ++ '.' :: d)) := by
  constructor
  · intro h
    rw [isValid] at h
    split at h
    · next d taken =>
      obtain ⟨_, taken, third⟩ := Option.bind_eq_some_iff.1 taken
      obtain ⟨_, first, second⟩ := Option.bind_eq_some_iff.1 taken
      obtain ⟨a, ha, whole⟩ := takeGroup_eq_some_iff.1 first
      obtain ⟨b, hb, rfl⟩ := takeGroup_eq_some_iff.1 second
      obtain ⟨c, hc, rfl⟩ := takeGroup_eq_some_iff.1 third
      exact ⟨a, b, c, d, ha, hb, hc, h, whole⟩
    · cases h
  · rintro ⟨a, b, c, d, ha, hb, hc, hd, whole⟩
    have first : takeGroup s.toList = some (b ++ '.' :: (c ++ '.' :: d)) :=
      takeGroup_eq_some_iff.2 ⟨a, ha, whole⟩
    have second : takeGroup (b ++ '.' :: (c ++ '.' :: d)) = some (c ++ '.' :: d) :=
      takeGroup_eq_some_iff.2 ⟨b, hb, rfl⟩
    have third : takeGroup (c ++ '.' :: d) = some d := takeGroup_eq_some_iff.2 ⟨c, hc, rfl⟩
    rw [isValid, first, Option.bind_some, second, Option.bind_some, third]
    exact hd

/-- An address is valid if it has four groups of one to three digits. -/
theorem isValid_iff {s : String} : isValid s = true ↔ Dotted s := by
  rw [isValid_iff_exists, Dotted, groups, Text.split_eq_splitOn]
  constructor
  · rintro ⟨a, b, c, d, ha, hb, hc, hd, whole⟩
    rw [whole, List.splitOn_append_cons_self_of_not_mem (point_notMem ha),
      List.splitOn_append_cons_self_of_not_mem (point_notMem hb),
      List.splitOn_append_cons_self_of_not_mem (point_notMem hc),
      List.splitOn_eq_singleton (point_notMem hd)]
    simp [isGroup_ofList_iff, ha, hb, hc, hd]
  · rintro ⟨four, each⟩
    rw [List.length_map] at four
    obtain ⟨a, rest, parts⟩ := List.exists_of_length_succ _ four
    rw [parts] at four
    obtain ⟨b, c, d, rfl⟩ := List.length_eq_three.1 (Nat.succ.inj four)
    have whole : ['.'].intercalate (s.toList.splitOn '.') = s.toList :=
      List.intercalate_splitOn '.'
    rw [parts] at each whole
    simp only [List.forall_mem_map, isGroup_ofList_iff, List.forall_mem_cons] at each
    obtain ⟨ha, hb, hc, hd, -⟩ := each
    exact ⟨a, b, c, d, ha, hb, hc, hd, by simpa [List.intercalate] using whole.symm⟩

/-- Addresses are in one subnet if their first three groups are the same. -/
theorem subnet_eq_iff {a b : String} :
    subnet a = subnet b ↔ (groups a).take 3 = (groups b).take 3 := by
  have parts : ∀ s, Text.split '.' (subnet s) = (groups s).take 3 := fun s =>
    Text.split_intercalate (by simpa using Text.split_ne_nil '.' s) fun g hg =>
      Text.notMem_of_mem_split (List.mem_of_mem_take hg)
  constructor
  · intro same
    rw [← parts a, ← parts b, same]
  · exact congrArg (".".intercalate ·)

end NetLab.Address
