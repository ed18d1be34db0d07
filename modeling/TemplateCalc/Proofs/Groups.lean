import TemplateCalc.Proofs.LeadingInteger

/-!
Groups of digits.

The digits at the front of a text are cut into groups of one size from their end on, so that only the
first group can be shorter. Marks stand between the groups, and the text is the same in all else. An
integer is therefore read again from its groups, if the mark ends no number.
-/

set_option autoImplicit false

namespace TemplateCalc.Grouping

open Strings (IsLongest behindSign frontDigits)

/-! ### Rows in groups -/

/-- A row cut into groups of one size, the first of which may be shorter. -/
structure Cut (size : Nat) (groups : List (List Char)) (row : List Char) : Prop where
  joined : groups.flatten = row
  first : ∀ group ∈ groups.head?, 1 ≤ group.length ∧ group.length ≤ size
  others : ∀ group ∈ groups.tail, group.length = size

section Cut

variable {size : Nat} {first row : List Char} {others : List (List Char)}

theorem Cut.length (cut : Cut size (first :: others) row) :
    row.length = first.length + size * others.length := by
  have rest : others.flatten.length = size * others.length := by
    have same := cut.others
    rw [List.tail_cons] at same
    clear cut
    induction others with
    | nil => rfl
    | cons group others ih =>
        have size := same group List.mem_cons_self
        have behind := ih fun group member => same group (List.mem_cons_of_mem _ member)
        rw [List.flatten_cons, List.length_append, behind, size, List.length_cons, Nat.mul_succ]
        omega
  rw [← cut.joined, List.flatten_cons, List.length_append, rest]

/-- A whole number of groups stands behind a place exactly if the first of them is full. -/
theorem Cut.length_mod (cut : Cut size (first :: others) row) :
    row.length % size = 0 ↔ first.length = size := by
  obtain ⟨least, most⟩ := cut.first first rfl
  rw [cut.length, Nat.add_mul_mod_self_left]
  constructor
  · intro whole
    by_cases less : first.length < size
    · rw [Nat.mod_eq_of_lt less] at whole
      omega
    · omega
  · intro full
    rw [full, Nat.mod_self]

theorem Cut.nil : Cut size [] [] where
  joined := rfl
  first := by
    intro group member
    cases member
  others := by
    intro group member
    cases member

theorem Cut.single (positive : 0 < size) (c : Char) : Cut size [[c]] [c] where
  joined := rfl
  first := by
    rintro group ⟨⟩
    exact ⟨Nat.le_refl 1, positive⟩
  others := by
    intro group member
    cases member

/-- The first group takes another character in front. -/
theorem Cut.extend (cut : Cut size (first :: others) row) (partly : first.length ≠ size) (c : Char) :
    Cut size ((c :: first) :: others) (c :: row) where
  joined := by rw [← cut.joined, List.flatten_cons, List.flatten_cons, List.cons_append]
  first := by
    obtain ⟨_, most⟩ := cut.first first rfl
    rintro group ⟨⟩
    rw [List.length_cons]
    omega
  others := cut.others

/-- A full group has another one in front. -/
theorem Cut.start (cut : Cut size (first :: others) row) (full : first.length = size) (c : Char) :
    Cut size ([c] :: first :: others) (c :: row) where
  joined := by rw [← cut.joined, List.flatten_cons, List.singleton_append]
  first := by
    obtain ⟨least, _⟩ := cut.first first rfl
    rintro group ⟨⟩
    exact ⟨Nat.le_refl 1, full ▸ least⟩
  others := by
    intro group member
    rcases List.mem_cons.mp member with rfl | behind
    · exact full
    · exact cut.others group behind

end Cut

/-- The marks stand between the groups. -/
theorem fromRight_eq_intercalate (mark : Char) {size : Nat} (positive : 0 < size)
    (row : List Char) :
    ∃ groups, Cut size groups row ∧ fromRight mark size row = [mark].intercalate groups := by
  induction row with
  | nil => exact ⟨[], .nil, rfl⟩
  | cons c row ih =>
      obtain ⟨groups, cut, shown⟩ := ih
      cases groups with
      | nil =>
          obtain rfl : [] = row := cut.joined
          refine ⟨[[c]], .single positive c, ?_⟩
          rw [fromRight, if_neg fun divided => divided.2.1 rfl, List.intercalate_singleton]
          rfl
      | cons first others =>
          obtain ⟨least, _⟩ := cut.first first rfl
          have long := cut.length
          have more : row ≠ [] := by
            rintro rfl
            rw [List.length_nil] at long
            omega
          rw [fromRight]
          -- a mark is put in front of a full group, as the length of what is behind it tells
          by_cases full : first.length = size
          · have divided : size ≠ 0 ∧ row ≠ [] ∧ row.length % size = 0 :=
              ⟨by omega, more, cut.length_mod.mpr full⟩
            refine ⟨_, cut.start full c, ?_⟩
            rw [if_pos divided, shown, List.intercalate_cons_cons]
            rfl
          · have undivided : ¬(size ≠ 0 ∧ row ≠ [] ∧ row.length % size = 0) :=
              fun divided => full (cut.length_mod.mp divided.2.2)
            refine ⟨_, cut.extend full c, ?_⟩
            rw [if_neg undivided, shown]
            cases others with
            | nil => rfl
            | cons next others => simp only [List.intercalate_cons_cons, List.cons_append]

theorem fromRight_zero (mark : Char) (row : List Char) : fromRight mark 0 row = row := by
  induction row with
  | nil => rfl
  | cons c row ih =>
      have undivided : ¬((0 : Nat) ≠ 0 ∧ row ≠ [] ∧ row.length % 0 = 0) :=
        fun divided => divided.1 rfl
      rw [fromRight, if_neg undivided, ih]

/-! ### Texts with a number in front -/

def frontSign : List Char → List Char
  | '-' :: _ => ['-']
  | '+' :: _ => ['+']
  | _ => []

theorem sign_cases (cs : List Char) :
    (∃ rest, cs = '-' :: rest) ∨ (∃ rest, cs = '+' :: rest) ∨
      frontSign cs = [] ∧ behindSign cs = cs ∧
        cs.head?.any (fun c => c == '+' || c == '-') = false := by
  by_cases minus : ∃ rest, cs = '-' :: rest
  · exact .inl minus
  by_cases plus : ∃ rest, cs = '+' :: rest
  · exact .inr (.inl plus)
  have noMinus (rest : List Char) : cs ≠ '-' :: rest := fun same => minus ⟨rest, same⟩
  have noPlus (rest : List Char) : cs ≠ '+' :: rest := fun same => plus ⟨rest, same⟩
  refine .inr (.inr ⟨?_, (Strings.unsigned_of noMinus noPlus).1, ?_⟩)
  · rw [frontSign]
    · exact noMinus
    · exact noPlus
  · cases cs with
    | nil => rfl
    | cons c rest =>
        have other (mark : Char) (differs : ∀ rest', c :: rest ≠ mark :: rest') :
            (c == mark) = false :=
          beq_eq_false_iff_ne.mpr fun same => differs rest (same ▸ rfl)
        rw [List.head?_cons, Option.any_some, other '+' noPlus, other '-' noMinus]
        rfl

theorem frontSign_append_behindSign (cs : List Char) : frontSign cs ++ behindSign cs = cs := by
  rcases sign_cases cs with ⟨rest, rfl⟩ | ⟨rest, rfl⟩ | ⟨sign, behind, _⟩
  · rfl
  · rfl
  · rw [sign, behind, List.nil_append]

theorem frontSign_mem (cs : List Char) : frontSign cs ∈ [[], ['+'], ['-']] := by
  rcases sign_cases cs with ⟨rest, rfl⟩ | ⟨rest, rfl⟩ | ⟨sign, _, _⟩
  · exact (by decide : ['-'] ∈ [[], ['+'], ['-']])
  · exact (by decide : ['+'] ∈ [[], ['+'], ['-']])
  · rw [sign]
    decide

theorem leading_eq (isDigit : Char → Bool) (mark : Char) (size : Nat) {s : String}
    {cs : List Char} (unblanked : Text.skipBlanks s.toList = cs) :
    leading isDigit mark size s =
      String.ofList (frontSign cs ++ fromRight mark size ((behindSign cs).takeWhile isDigit) ++
        (behindSign cs).dropWhile isDigit) := by
  rw [leading, unblanked]
  rcases sign_cases cs with ⟨rest, rfl⟩ | ⟨rest, rfl⟩ | ⟨sign, behind, unsigned⟩
  · rfl
  · rfl
  · simp only [sign, behind, unsigned, Bool.false_eq_true, if_false, List.take_zero,
      List.drop_zero]

/-! ### Reading groups -/

section Reading

variable {radix : Nat} {mark : Char}

/-- Marks that end no number are passed over. -/
theorem frontDigits_fromRight (plain : Text.isAlphanumeric mark = false)
    (noDigit : Numeral.isDigit radix mark = false) (size : Nat) {ds : List Char}
    (all : ∀ c ∈ ds, Numeral.isDigit radix c = true) :
    frontDigits radix (fromRight mark size ds) = ds := by
  induction ds with
  | nil => rfl
  | cons c ds ih =>
      have digit := all c List.mem_cons_self
      have rest := ih fun d member => all d (List.mem_cons_of_mem c member)
      rw [fromRight]
      split
      · rw [Strings.frontDigits_cons_digit digit, Strings.frontDigits_cons_skip noDigit plain, rest]
      · rw [Strings.frontDigits_cons_digit digit, rest]

theorem noDigit_of_plain (plain : Text.isAlphanumeric mark = false) :
    Numeral.isDigit 10 mark = false := by
  rw [Bool.eq_false_iff]
  intro digit
  have other : Text.isAlphanumeric mark = true :=
    Numeral.forall_isDigit (P := fun c => Text.isAlphanumeric c = true) (by decide) digit
  rw [plain] at other
  cases other

theorem unsigned_of_head {row : List Char} (first : ∀ c ∈ row.head?, Text.isNameChar c = true) :
    Text.skipBlanks row = row ∧ behindSign row = row ∧ ∀ n : Nat, Strings.withSign row n = n := by
  have other {sign : Char} (outside : Text.isNameChar sign = false) (rest : List Char) :
      row ≠ sign :: rest := by
    rintro rfl
    rw [first sign rfl] at outside
    cases outside
  refine ⟨?_, Strings.unsigned_of (other (by decide)) (other (by decide))⟩
  cases row with
  | nil => rfl
  | cons c row =>
      rw [Text.skipBlanks, List.dropWhile_cons, Text.not_isBlank_of_isNameChar (first c rfl)]
      rfl

/-- A number in groups is read as what its digits denote, with a sign in front of it or without. -/
theorem leadingInteger_grouped (plain : Text.isAlphanumeric mark = false) (size n : Nat) :
    Strings.leadingInteger (decimal mark size (Numeral.decimal n)) 10 = Strings.saturate n ∧
      Strings.leadingInteger (decimal mark size ("-" ++ Numeral.decimal n)) 10 =
        Strings.saturate (-n) := by
  have all := Numeral.isDigit_of_mem_toDigits (by decide : 1 < 10) (by decide) n
  have decimals : ∀ c ∈ Nat.toDigits 10 n, c.isDigit = true :=
    fun c member => Numeral.decimal_of_isDigit (by decide) (all c member)
  -- what the groups denote does not depend on the sign in front of them
  have read : Numeral.value 10 (frontDigits 10 (fromRight mark size (Nat.toDigits 10 n))) = n := by
    rw [frontDigits_fromRight plain (noDigit_of_plain plain) size all,
      Numeral.value_toDigits (by decide) (by decide)]
  have ten : Strings.radixOf 10 = 10 := rfl
  constructor
  · have whole : decimal mark size (Numeral.decimal n) =
        String.ofList (fromRight mark size (Nat.toDigits 10 n)) :=
      leading_digits (fun _ => Scan.isNameChar_of_decimal) mark size decimals
    have first : ∀ c ∈ (fromRight mark size (Nat.toDigits 10 n)).head?,
        Text.isNameChar c = true := by
      rw [head?_fromRight]
      intro c isFirst
      exact Scan.isNameChar_of_decimal (decimals c (List.mem_of_mem_head? isFirst))
    obtain ⟨unblanked, behind, unsigned⟩ := unsigned_of_head first
    rw [whole, Strings.leadingInteger_eq, String.toList_ofList, unblanked, behind, unsigned, ten,
      read]
  · have cut (row : List Char) : Text.skipBlanks ('-' :: row) = '-' :: row := rfl
    have signed : Text.skipBlanks ("-" ++ Numeral.decimal n).toList =
        '-' :: Nat.toDigits 10 n := by
      rw [Numeral.decimal, String.toList_append, String.toList_ofList, String.toList_ofList]
      exact cut _
    have whole : decimal mark size ("-" ++ Numeral.decimal n) =
        String.ofList ('-' :: fromRight mark size (Nat.toDigits 10 n)) := by
      rw [decimal, leading_eq Char.isDigit mark size signed]
      simp only [frontSign, behindSign, Text.takeWhile_of_all decimals,
        Text.dropWhile_of_all decimals, List.append_nil, List.cons_append, List.nil_append]
    rw [whole, Strings.leadingInteger_eq, String.toList_ofList, cut, behindSign, ten, read]
    rfl

theorem leadingInteger_decimal (plain : Text.isAlphanumeric mark = false) (size : Nat)
    (n : Int64) :
    Strings.leadingInteger (decimal mark size (Numeral.signed n.toInt)) 10 = n := by
  obtain ⟨positive, negative⟩ := leadingInteger_grouped plain size n.toInt.natAbs
  rw [Numeral.signed]
  split
  · have value : -(n.toInt.natAbs : Int) = n.toInt := by omega
    rw [negative, value, Strings.saturate_toInt]
  · have value : (n.toInt.natAbs : Int) = n.toInt := by omega
    rw [positive, value, Strings.saturate_toInt]

end Reading

/-- Behind any blanks, a text starts with a sign, if it has one, and the longest row of digits there.
Only this row is changed: it is cut into groups, with the mark between them, or left alone if the
size is zero. An integer is read again from its groups, whatever their size, if the mark is neither a
letter nor a numeral. -/
theorem groups_only_add_marks (mark : Char) (size : Nat) :
    (∀ s : String, ∃ sign run rest,
      Text.skipBlanks s.toList = sign ++ (run ++ rest) ∧
      sign ∈ [[], ['+'], ['-']] ∧ run ++ rest = behindSign (Text.skipBlanks s.toList) ∧
      IsLongest (fun p => ∀ c ∈ p, c.isDigit = true) run (run ++ rest) ∧
      (0 < size → ∃ groups, Cut size groups run ∧
        decimal mark size s = String.ofList (sign ++ [mark].intercalate groups ++ rest)) ∧
      (size = 0 → decimal mark size s = String.ofList (sign ++ run ++ rest))) ∧
    (Text.isAlphanumeric mark = false → ∀ n : Int64,
      Strings.leadingInteger (decimal mark size (Numeral.signed n.toInt)) 10 = n) := by
  constructor
  · intro s
    generalize unblanked : Text.skipBlanks s.toList = cs
    rw [decimal, leading_eq Char.isDigit mark size unblanked]
    have whole : (behindSign cs).takeWhile Char.isDigit ++ (behindSign cs).dropWhile Char.isDigit =
        behindSign cs := List.takeWhile_append_dropWhile
    refine ⟨frontSign cs, (behindSign cs).takeWhile Char.isDigit,
      (behindSign cs).dropWhile Char.isDigit, ?_, frontSign_mem cs, whole, ?_, ?_, ?_⟩
    · rw [whole, frontSign_append_behindSign]
    · rw [whole]
      exact Strings.isLongest_takeWhile Char.isDigit _
    · intro positive
      obtain ⟨groups, cut, divided⟩ := fromRight_eq_intercalate mark positive
        ((behindSign cs).takeWhile Char.isDigit)
      refine ⟨groups, cut, ?_⟩
      rw [divided]
    · rintro rfl
      rw [fromRight_zero]
  · intro plain n
    exact leadingInteger_decimal plain size n

/-- A number between a blank and a fraction, and the least integer with signs between its digits. -/
theorem groups_of_least_integer :
    let shown := decimal '-' 4 (Numeral.signed Int64.minValue.toInt)
    shown = "-922-3372-0368-5477-5808" ∧ Strings.leadingInteger shown 10 = Int64.minValue ∧
      decimal '.' 4 " +1234567,8" = "+123.4567,8" ∧
      (∃ sign run rest groups, sign ++ (run ++ rest) = "+1234567,8".toList ∧ Cut 4 groups run ∧
        "+123.4567,8" = String.ofList (sign ++ ['.'].intercalate groups ++ rest)) ∧
      decimal '.' 0 " +1234567,8" = "+1234567,8" := by
  intro shown
  obtain ⟨_, readsBack⟩ := groups_only_add_marks '-' 4
  obtain ⟨ofText, _⟩ := groups_only_add_marks '.' 4
  obtain ⟨sign, run, rest, parts, _, _, _, divided, _⟩ := ofText " +1234567,8"
  obtain ⟨groups, cut, isShown⟩ := divided (by decide)
  have point : decimal '.' 4 " +1234567,8" = "+123.4567,8" := by decide +kernel
  refine ⟨by decide +kernel, readsBack (by decide) Int64.minValue, point, ?_, ?_⟩
  · exact ⟨sign, run, rest, groups, parts.symm, cut, point.symm.trans isShown⟩
  · obtain ⟨sign, run, rest, parts, _, _, _, _, undivided⟩ :=
      (groups_only_add_marks '.' 0).1 " +1234567,8"
    rw [undivided rfl, List.append_assoc, ← parts]
    rfl

end TemplateCalc.Grouping
