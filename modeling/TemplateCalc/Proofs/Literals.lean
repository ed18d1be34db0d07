import Mathlib.Data.Nat.Digits.Lemmas
import TemplateCalc.Proofs.Positional
import TemplateCalc.Proofs.Spelling

/-!
Integer literals.

In every radix the numeral of a number is read as this number, unless the numeral is a keyword. So is
a row of digits behind a mark such as `0x`, in the radix of the mark. Beyond 64 bits both are faults.
-/

set_option autoImplicit false

namespace TemplateCalc

/-! ### Numerals -/

namespace Numeral

def letter (d : Nat) : Char :=
  if d < 10 then Char.ofNat ('0'.toNat + d) else Char.ofNat ('a'.toNat + (d - 10))

def shortest (radix n : Nat) : List Char :=
  if n = 0 then ['0'] else (Nat.digits radix n).reverse.map letter

def Spells (radix n : Nat) (cs : List Char) : Prop :=
  cs.map Char.toLower = shortest radix n

instance (radix n : Nat) (cs : List Char) : Decidable (Spells radix n cs) :=
  inferInstanceAs (Decidable (cs.map Char.toLower = shortest radix n))

section Numerals

variable {radix : Nat}

theorem digitWorth?_letter {d : Nat} (below : d < 36) : digitWorth? (letter d) = some d := by
  have each : ∀ d : Fin 36, digitWorth? (letter d) = some d.val := by decide
  exact each ⟨d, below⟩

theorem worth_letter {d : Nat} (small : radix ≤ 36) (below : d < radix) :
    worth radix (letter d) = d := by
  rw [worth, digit?, digitWorth?_letter (Nat.lt_of_lt_of_le below small), Option.filter_some,
    if_pos (decide_eq_true below)]
  rfl

theorem isDigit_of_mem_shortest (least : 2 ≤ radix) (most : radix ≤ 36) (n : Nat) :
    ∀ c ∈ shortest radix n, isDigit radix c = true := by
  intro c member
  rw [shortest] at member
  split at member
  · rw [List.mem_singleton.mp member]
    exact isDigit_of_worth rfl (by omega)
  · obtain ⟨d, inDigits, rfl⟩ := List.mem_map.mp member
    have below : d < radix := Nat.digits_lt_base least (List.mem_reverse.mp inDigits)
    exact isDigit_of_worth (digitWorth?_letter (Nat.lt_of_lt_of_le below most)) below

theorem value_shortest (least : 2 ≤ radix) (most : radix ≤ 36) (n : Nat) :
    value radix (shortest radix n) = n := by
  rw [value_eq_ofDigits, shortest]
  split
  · rename_i zero
    rw [zero, List.reverse_singleton, List.map_singleton, worth_zero]
    rfl
  · have same : (Nat.digits radix n).map (worth radix ∘ letter) = (Nat.digits radix n).map id :=
      List.map_congr_left fun d member => worth_letter most (Nat.digits_lt_base least member)
    rw [← List.map_reverse, List.reverse_reverse, List.map_map, same, List.map_id,
      Nat.ofDigits_digits]

/-- Only zero has a numeral with a zero in front. -/
theorem shortest_of_leading_zero (least : 2 ≤ radix) (most : radix ≤ 36) {n : Nat}
    (zero : (shortest radix n).head? = some '0') : shortest radix n = ['0'] := by
  rw [shortest] at zero ⊢
  split at zero
  · rename_i none
    rw [if_pos none]
  · rename_i positive
    have nonempty : Nat.digits radix n ≠ [] := Nat.digits_ne_nil_iff_ne_zero.mpr positive
    have below := Nat.digits_lt_base least (List.getLast_mem nonempty)
    rw [List.head?_map, List.head?_reverse, List.getLast?_eq_some_getLast nonempty, Option.map_some,
      Option.some_inj] at zero
    -- the first digit is the highest one, which is not zero
    have first := worth_letter most below
    rw [zero, worth_zero] at first
    exact absurd first.symm (Nat.getLast_digit_ne_zero radix positive)

namespace Spells

variable {n : Nat} {cs : List Char}

theorem ne_nil (spells : Spells radix n cs) : cs ≠ [] := by
  rintro rfl
  rw [Spells, List.map_nil, shortest] at spells
  split at spells
  · cases spells
  · rename_i positive
    rw [eq_comm, List.map_eq_nil_iff, List.reverse_eq_nil_iff] at spells
    exact Nat.digits_ne_nil_iff_ne_zero.mpr positive spells

theorem isDigit (spells : Spells radix n cs) (least : 2 ≤ radix) (most : radix ≤ 36) :
    ∀ c ∈ cs, Numeral.isDigit radix c = true := by
  apply (isDigit_map (digit?_toLower radix)).mp
  rw [spells]
  exact isDigit_of_mem_shortest least most n

theorem value (spells : Spells radix n cs) (least : 2 ≤ radix) (most : radix ≤ 36) :
    Numeral.value radix cs = n := by
  rw [← value_map (digit?_toLower radix) cs, spells, value_shortest least most]

theorem of_leading_zero (spells : Spells radix n cs) (least : 2 ≤ radix) (most : radix ≤ 36)
    (zero : cs.head? = some '0') : cs = ['0'] := by
  have front : (shortest radix n).head? = some '0' := by
    rw [← spells, List.head?_map, zero]
    rfl
  have whole := shortest_of_leading_zero least most front
  rw [← spells, List.map_eq_singleton_iff] at whole
  obtain ⟨c, rfl, _⟩ := whole
  rw [List.head?_cons, Option.some_inj] at zero
  rw [zero]

end Spells

end Numerals

end Numeral

namespace Scan

variable {rules : Rules}

/-! ### Readings of one numeral -/

/-- Whether a reading is that of a literal: the number, wrapped to a signed one, if it fits into 64
bits, and the fault with this message if it does not. -/
def IsLiteral (n : Nat) (overflow : String) (reading : Reading) : Prop :=
  (n < 2 ^ 64 → reading = ⟨[.int (Int64.ofNat n)], none⟩) ∧
    (2 ^ 64 ≤ n → ∃ fault, reading = ⟨[], some fault⟩ ∧ fault.message = overflow)

theorem scan_fault {text : String} {c : Char} {cs : List Char} {fault : LexicalFault}
    (isText : text.toList = c :: cs) (notBlank : Text.isBlank c = false)
    (fails : tokenFrom rules false c cs = .error fault) : scan rules text = ⟨[], some fault⟩ := by
  apply scan_of_reads
  rw [isText]
  refine .fault ?_ fails
  rw [Text.skipBlanks, List.dropWhile_cons, notBlank]
  rfl

/-- A text that is one number is read as the number is. -/
theorem isLiteral_of_number {text : String} {c : Char} {cs : List Char}
    (isText : text.toList = c :: cs)
    (numeral : c.isDigit = true ∨
      Text.isNameStart c = true ∧ 10 < rules.radix ∧ wordIsNumber rules.radix (c :: cs) = true)
    {radix : Nat} {ds : List Char} {fault : LexicalFault}
    (read : number rules (c :: cs) =
      match Numeral.word? radix ds with
      | some n => .ok (.int n.toInt64, [])
      | none => .error fault) :
    IsLiteral (Numeral.value radix ds) fault.message (scan rules text) := by
  have size : UInt64.size = 2 ^ 64 := rfl
  constructor
  · intro fits
    rw [Numeral.word?, size, if_pos fits] at read
    simp only [UInt64.toInt64_ofNat'] at read
    exact scan_of_reads (alone_of_number isText numeral read false)
  · intro exceeds
    rw [Numeral.word?, size, if_neg (Nat.not_lt.mpr exceeds)] at read
    obtain ⟨notBlank, asNumber⟩ := tokenFrom_number numeral false
    exact ⟨fault, scan_fault isText notBlank (asNumber.trans read), rfl⟩

/-! ### Numerals without a mark -/

section Unmarked

variable {cs : List Char}

theorem isNameChar_of_digits {radix : Nat} (all : ∀ c ∈ cs, Numeral.isDigit radix c = true) :
    ∀ c ∈ cs, Text.isNameChar c = true :=
  fun c member => isNameChar_of_isDigit (all c member)

theorem wordIsNumber_digits {radix : Nat} (all : ∀ c ∈ cs, Numeral.isDigit radix c = true) :
    wordIsNumber radix cs = !isKeyword (String.ofList (cs.map Char.toLower)) := by
  have word : cs.takeWhile Text.isNameChar = cs := Text.takeWhile_of_all (isNameChar_of_digits all)
  have rest : cs.dropWhile Text.isNameChar = [] := Text.dropWhile_of_all (isNameChar_of_digits all)
  rw [wordIsNumber, word, rest, List.all_eq_true.mpr all]
  rfl

theorem name_of_all (all : ∀ c ∈ cs, Text.isNameChar c = true) : name cs = (cs, []) := by
  induction cs with
  | nil => rfl
  | cons c cs ih =>
      rw [name_cons (all c List.mem_cons_self),
        ih fun d member => all d (List.mem_cons_of_mem c member)]

/-- A row of digits that is a keyword starts with a letter. -/
theorem isNameStart_of_isKeyword {radix : Nat} (most : radix ≤ 36) {c : Char}
    (digit : Numeral.isDigit radix c = true)
    (keyword : isKeyword (String.ofList ((c :: cs).map Char.toLower)) = true) :
    Text.isNameStart c = true := by
  apply (Numeral.decimal_or_isNameStart most digit).resolve_left
  intro decimal
  have each : ∀ name ∈ keywords, startsWith Char.isDigit name.toList = false := by decide
  have other := each _ (mem_keywords_of_isKeyword keyword)
  have bounds := isDigit_iff.mp decimal
  rw [String.toList_ofList, List.map_cons, startsWith, List.head?_cons, Option.any_some,
    Numeral.toLower_eq_self (by omega), decimal] at other
  cases other

theorem scan_keyword {radix : Nat} (most : radix ≤ 36) {text : String}
    (all : ∀ c ∈ text.toList, Numeral.isDigit radix c = true)
    (keyword : isKeyword (String.ofList (text.toList.map Char.toLower)) = true) :
    scan ⟨radix, none⟩ text = ⟨[.word text], none⟩ := by
  have starts : startsWith Text.isNameStart text.toList = true := by
    cases isText : text.toList with
    | nil =>
        rw [isText] at keyword
        exact absurd keyword (by decide)
    | cons c cs =>
        rw [isText] at keyword
        exact isNameStart_of_isKeyword most (all c (by simp [isText])) keyword
  have isWhole : isName text.toList = true := by
    rw [isName, starts, name_of_all (isNameChar_of_digits all)]
    rfl
  have noNumber : 10 < Rules.radix ⟨radix, none⟩ →
      wordIsNumber (Rules.radix ⟨radix, none⟩) (text.toList ++ []) = false := by
    intro _
    rw [List.append_nil, wordIsNumber_digits all, keyword]
    rfl
  have reads := Reads.word isWhole endsName_nil noNumber (.finish rfl) false
  rw [List.append_nil, String.ofList_toList] at reads
  exact scan_of_reads reads

/-- A row of digits that is no keyword starts with a decimal digit or with a word of digits. -/
theorem numeral_digits {radix : Nat} (most : radix ≤ 36) {c : Char}
    (all : ∀ d ∈ c :: cs, Numeral.isDigit radix d = true)
    (noKeyword : isKeyword (String.ofList ((c :: cs).map Char.toLower)) = false) :
    c.isDigit = true ∨
      Text.isNameStart c = true ∧ 10 < radix ∧ wordIsNumber radix (c :: cs) = true := by
  have digit := all c List.mem_cons_self
  by_cases small : radix ≤ 10
  · exact .inl (Numeral.decimal_of_isDigit small digit)
  · refine (Numeral.decimal_or_isNameStart most digit).imp_right fun starts =>
      ⟨starts, by omega, ?_⟩
    rw [wordIsNumber_digits all, noKeyword]
    rfl

theorem isLiteral_numeral {radix n : Nat} (least : 2 ≤ radix) (most : radix ≤ 36) {text : String}
    (spells : Numeral.Spells radix n text.toList)
    (noKeyword : isKeyword (String.ofList (text.toList.map Char.toLower)) = false) :
    IsLiteral n ("Overflow: \"" ++ text ++ "\" too big") (scan ⟨radix, none⟩ text) := by
  have all := spells.isDigit least most
  have noMark : ∀ c rest, text.toList = '0' :: c :: rest → markRadix? radix c = none := by
    intro c rest isText
    have single := spells.of_leading_zero least most (by rw [isText]; rfl)
    rw [isText] at single
    cases single
  have read : number ⟨radix, none⟩ text.toList = integer radix text.toList [] :=
    number_digits (digits_whole all false) noMark
  have overflow : (LexicalFault.tooBig (String.ofList text.toList)).message =
      "Overflow: \"" ++ text ++ "\" too big" := by
    rw [String.ofList_toList]
    rfl
  rw [← spells.value least most, ← overflow]
  cases isText : text.toList with
  | nil => exact absurd isText spells.ne_nil
  | cons c cs =>
      rw [isText] at all noKeyword read
      exact isLiteral_of_number isText (numeral_digits most all noKeyword) read

end Unmarked

/-! ### Numerals behind a mark -/

/-- Which mark behind a zero stands for which radix, among numerals in a radix. A mark that is a digit
of the radix is none, except for that of sixteen. -/
def Marks (radix : Nat) (mark : Char) (base : Nat) : Prop :=
  base = 16 ∧ mark ∈ ['x', 'X'] ∨ base = 8 ∧ radix ≤ 24 ∧ mark ∈ ['o', 'O'] ∨
    base = 2 ∧ radix ≤ 11 ∧ mark ∈ ['b', 'B']

theorem markRadix?_of_marks {radix base : Nat} {mark : Char} (marks : Marks radix mark base) :
    markRadix? radix mark = some base := by
  simp only [Marks, List.mem_cons, List.not_mem_nil, or_false] at marks
  rcases marks with ⟨rfl, rfl | rfl⟩ | ⟨rfl, most, rfl | rfl⟩ | ⟨rfl, most, rfl | rfl⟩ <;>
    simp [markRadix?, *]

def markedFault (base : Nat) (ds : List Char) : LexicalFault :=
  if base = 16 then .hexTooBig (String.ofList ds) else .tooBig (String.ofList ds)

theorem number_marked {radix base : Nat} {mark : Char} (marks : Marks radix mark base)
    {ds : List Char} (isRow : ds ≠ []) (all : ∀ c ∈ ds, Numeral.isDigit base c = true) :
    number ⟨radix, none⟩ ('0' :: mark :: ds) =
      match Numeral.word? base ds with
      | some n => .ok (.int n.toInt64, [])
      | none => .error (markedFault base ds) := by
  have starts : startsWith (Numeral.isDigit base) ds = true := by
    cases ds with
    | nil => exact absurd rfl isRow
    | cons d ds => exact all d List.mem_cons_self
  simp only [number, markRadix?_of_marks marks, starts, if_true]
  simp only [marked, digits_whole all, startsWith, List.head?_nil, Option.any_none,
    Bool.false_eq_true, if_false, markedFault]
  cases Numeral.word? base ds with
  | some n => rfl
  | none => by_cases hex : base = 16 <;> simp only [hex, if_true, if_false]

theorem isLiteral_marked {radix base : Nat} {mark : Char} (marks : Marks radix mark base)
    {ds : List Char} (isRow : ds ≠ []) (all : ∀ c ∈ ds, Numeral.isDigit base c = true) :
    IsLiteral (Numeral.value base ds)
      ((if base = 16 then "Overflow: Hex integer \"" else "Overflow: \"") ++ String.ofList ds ++
        "\" too big")
      (scan ⟨radix, none⟩ (String.ofList ('0' :: mark :: ds))) := by
  have literal := isLiteral_of_number (String.toList_ofList) (.inl (by decide))
    (number_marked marks isRow all)
  have overflow : (markedFault base ds).message =
      (if base = 16 then "Overflow: Hex integer \"" else "Overflow: \"") ++ String.ofList ds ++
        "\" too big" := by
    rw [markedFault]
    split <;> rfl
  rwa [overflow] at literal

/-! ### Literals -/

/-- In every radix, the numeral of a number is read as this number, in letters of any case and unless
it is a keyword, which is a word. A row of digits behind a mark is read as the number that it denotes
in the radix of the mark. A number that does not fit into 64 bits is a fault. -/
theorem literals_mean_their_numerals {radix : Nat} (least : 2 ≤ radix) (most : radix ≤ 36) :
    (∀ (n : Nat) (text : String), Numeral.Spells radix n text.toList →
      let reading := scan ⟨radix, none⟩ text
      if isKeyword (String.ofList (text.toList.map Char.toLower)) = true then
        reading = ⟨[.word text], none⟩
      else IsLiteral n ("Overflow: \"" ++ text ++ "\" too big") reading) ∧
    (∀ (base : Nat) (mark : Char) (ds : List Char), Marks radix mark base → ds ≠ [] →
      (∀ c ∈ ds, Numeral.isDigit base c = true) →
        let n := Nat.ofDigits base (ds.reverse.map (Numeral.worth base))
        let beginning := if base = 16 then "Overflow: Hex integer \"" else "Overflow: \""
        IsLiteral n (beginning ++ String.ofList ds ++ "\" too big")
          (scan ⟨radix, none⟩ (String.ofList ('0' :: mark :: ds)))) := by
  constructor
  · intro n text spells reading
    split
    · rename_i keyword
      exact scan_keyword most (spells.isDigit least most) keyword
    · rename_i noKeyword
      exact isLiteral_numeral least most spells (Bool.eq_false_iff.mpr noKeyword)
  · intro base mark ds marks isRow all n beginning
    have literal := isLiteral_marked marks isRow all
    rwa [Numeral.value_eq_ofDigits] at literal

/-- In the largest radix: a number in letters of both cases, a keyword, the least number that does not
fit, and digits behind a mark. -/
theorem literals_in_largest_radix :
    let reading := scan ⟨36, none⟩
    Numeral.Spells 36 1295 "Zz".toList ∧ reading "Zz" = ⟨[.int 1295], none⟩ ∧
      Numeral.Spells 36 36959 "Sin".toList ∧ reading "Sin" = ⟨[.word "Sin"], none⟩ ∧
      Numeral.Spells 36 (2 ^ 64) "3W5E11264SGSG".toList ∧
      (∃ fault, reading "3W5E11264SGSG" = ⟨[], some fault⟩ ∧
        fault.message = "Overflow: \"3W5E11264SGSG\" too big") ∧
      Marks 36 'x' 16 ∧ reading "0xfFFFFFFFFFFFFFFF" = ⟨[.int (-1)], none⟩ := by
  intro reading
  have ⟨numerals, behindMarks⟩ := literals_mean_their_numerals (by decide : 2 ≤ 36) (le_refl 36)
  have small : Numeral.Spells 36 1295 "Zz".toList := by decide +kernel
  have keyword : Numeral.Spells 36 36959 "Sin".toList := by decide +kernel
  have large : Numeral.Spells 36 (2 ^ 64) "3W5E11264SGSG".toList := by decide +kernel
  have hex : Marks 36 'x' 16 := .inl ⟨rfl, List.mem_cons_self⟩
  have digits : ∀ c ∈ "fFFFFFFFFFFFFFFF".toList, Numeral.isDigit 16 c = true :=
    List.all_eq_true.mp (by decide)
  have ones := behindMarks 16 'x' "fFFFFFFFFFFFFFFF".toList hex (by decide) digits
  exact ⟨small, (numerals 1295 "Zz" small).1 (by decide), keyword, numerals 36959 "Sin" keyword,
    large, (numerals (2 ^ 64) "3W5E11264SGSG" large).2 (by decide), hex, ones.1 (by decide)⟩

end Scan

end TemplateCalc
