import TemplateCalc.Printf
import TemplateCalc.Proofs.LeadingInteger

/-!
Conversions of integers.

A conversion writes a sign and digits and fills them up to its width. Whatever its flags, width and
precision are, the integer is read again from the text in the radix of the conversion, and the text is
as long as the width or, if that is longer, as the text without a width.
-/

set_option autoImplicit false

namespace TemplateCalc.Printf

/-! ### Justified texts -/

section Justified

variable {spec : Spec} {sign body : List Char} {zeros : Bool}

theorem length_justify :
    (spec.justify sign body zeros).length = max spec.width (sign.length + body.length) := by
  simp only [Spec.justify]
  split
  · simp only [List.length_append, List.length_replicate]
    omega
  · split <;>
      · simp only [List.length_append, List.length_replicate]
        omega

/-- The fill consists of blanks on one side or zeros behind the sign. -/
theorem justify_eq (spec : Spec) (sign body : List Char) (zeros : Bool) :
    ∃ before zeros' behind, spec.justify sign body zeros =
      List.replicate before ' ' ++ sign ++ (List.replicate zeros' '0' ++ body) ++
        List.replicate behind ' ' := by
  simp only [Spec.justify]
  generalize spec.width - (sign.length + body.length) = fill
  split
  · exact ⟨0, 0, fill, rfl⟩
  split
  · refine ⟨0, fill, 0, ?_⟩
    simp only [List.replicate_zero, List.nil_append, List.append_nil, List.append_assoc]
  · refine ⟨fill, 0, 0, ?_⟩
    simp only [List.replicate_zero, List.nil_append, List.append_nil]

end Justified

structure Denotes (radix : Nat) (n : Int64) (sign body : List Char) : Prop where
  isSign : sign ∈ Strings.signs
  digits : ∀ c ∈ body, Numeral.isDigit radix c = true
  value : (if sign = ['-'] then -(Numeral.value radix body : Int) else Numeral.value radix body) =
    n.toInt

section Denotes

variable {radix : Nat} {n : Int64} {sign ds : List Char}

theorem Denotes.zeros (denotes : Denotes radix n sign ds) (positive : 0 < radix) (count : Nat) :
    Denotes radix n sign (List.replicate count '0' ++ ds) where
  isSign := denotes.isSign
  digits := by
    intro c member
    rcases List.mem_append.mp member with zero | digit
    · rw [(List.mem_replicate.mp zero).2]
      exact Numeral.isDigit_of_worth rfl positive
    · exact denotes.digits c digit
  value := by
    rw [Numeral.value_zeros]
    exact denotes.value

theorem Denotes.map_toUpper (denotes : Denotes radix n sign ds) :
    Denotes radix n sign (ds.map Char.toUpper) where
  isSign := denotes.isSign
  digits := (Numeral.isDigit_map (Numeral.digit?_toUpper radix)).mpr denotes.digits
  value := by
    rw [Numeral.value_map (Numeral.digit?_toUpper radix)]
    exact denotes.value

/-- However the sign and the digits are justified, the integer is read from them. -/
theorem Denotes.leadingInteger (denotes : Denotes radix n sign ds) (least : 2 ≤ radix)
    (most : radix ≤ 36) (spec : Spec) (zeros : Bool) :
    Strings.leadingInteger (String.ofList (spec.justify sign ds zeros)) radix = n := by
  obtain ⟨before, count, behind, justified⟩ := justify_eq spec sign ds zeros
  have filled := denotes.zeros (by omega) count
  rw [justified, Strings.leadingInteger_written least most filled.isSign filled.digits, filled.value,
    Strings.saturate_toInt]

/-- The precision adds zeros or, where the integer is zero, may leave nothing. -/
theorem Denotes.precise (denotes : Denotes radix n sign ds) (positive : 0 < radix) (spec : Spec) :
    Denotes radix n sign (spec.precise n ds) := by
  rw [Spec.precise]
  split
  · exact denotes
  split
  · rename_i none
    refine ⟨denotes.isSign, nofun, ?_⟩
    rw [none.2]
    split <;> rfl
  · exact denotes.zeros positive _

end Denotes

theorem denotes_signed (spec : Spec) (n : Int64) :
    Denotes 10 n (spec.sign (n < 0)) (Nat.toDigits 10 n.toInt.natAbs) := by
  refine ⟨?_, Numeral.isDigit_of_mem_toDigits (by decide) (by decide) _, ?_⟩
  · unfold Spec.sign
    repeat' split
    all_goals decide
  · rw [Numeral.value_toDigits (by decide) (by decide)]
    by_cases negative : n < 0
    · have below : n.toInt < 0 := Int64.lt_iff_toInt_lt.mp negative
      have minus : spec.sign (n < 0) = ['-'] := if_pos (decide_eq_true negative)
      rw [minus, if_pos rfl]
      omega
    · have above : 0 ≤ n.toInt := Int64.le_iff_toInt_le.mp (Int64.not_lt.mp negative)
      have noMinus : spec.sign (n < 0) ≠ ['-'] := by
        rw [Spec.sign, decide_eq_false negative, if_neg Bool.false_ne_true]
        repeat' split
        all_goals decide
      rw [if_neg noMinus]
      omega

theorem denotes_unsigned {n : Int64} (nonneg : 0 ≤ n) {radix : Nat} (least : 1 < radix)
    (most : radix ≤ 16) : Denotes radix n [] (Nat.toDigits radix n.toUInt64.toNat) := by
  refine ⟨List.mem_cons_self, Numeral.isDigit_of_mem_toDigits least most _, ?_⟩
  have above : 0 ≤ n.toInt := Int64.le_iff_toInt_le.mp nonneg
  rw [if_neg (by decide), Numeral.value_toDigits least most, ← Numeral.natAbs_of_nonneg nonneg]
  omega

/-! ### What is justified -/

def digitLetters : List Char := ['d', 'u', 'o', 'x', 'X']

/-- The sign of an integer, which only signed conversions write. -/
def Spec.signOf (spec : Spec) (n : Int64) : List Char :=
  if spec.letter == 'd' || spec.letter == 'i' then spec.sign (n < 0) else []

def Spec.parts (spec : Spec) (n : Int64) : List Char × List Char :=
  let digits := spec.precise n (spec.digits n)
  let sign := spec.signOf n
  match spec.alternate && n != 0, spec.letter with
  | true, 'x' => (['0', 'x'], digits)
  | true, 'X' => (['0', 'X'], digits)
  | true, 'o' => if digits.head? == some '0' then (sign, digits) else (sign, '0' :: digits)
  | _, _ => (sign, digits)

theorem Spec.int_eq {spec : Spec} (isDigits : spec.letter ∈ digitLetters) (n : Int64) :
    spec.int n = spec.justify (spec.parts n).1 (spec.parts n).2 spec.precision.isNone := by
  have other : ¬(spec.letter == 'c') = true := by
    rw [beq_iff_eq]
    intro same
    rw [same] at isDigits
    exact absurd isDigits (by decide)
  rw [Spec.int, if_neg other]
  rfl

/-- Without a width there is no fill, with or without zeros. -/
theorem length_int {spec : Spec} (isDigits : spec.letter ∈ digitLetters) (n : Int64) (zero : Bool) :
    (spec.int n).length = max spec.width (({ spec with width := 0, zero }).int n).length := by
  have bare := @Spec.int_eq { spec with width := 0, zero } isDigits n
  rw [Spec.int_eq isDigits, bare, length_justify, length_justify, Nat.zero_max]
  rfl

/-- The letters of the conversions from which an integer is read again, and the radix of each. Those
to base sixteen must not be marked with their radix, and only one letter writes a sign. -/
def ReadsBack (letter : Char) (marked : Bool) (n : Int64) (radix : Nat) : Prop :=
  letter = 'd' ∧ radix = 10 ∨
    0 ≤ n ∧ (letter = 'u' ∧ radix = 10 ∨ letter = 'o' ∧ radix = 8 ∨
      (letter = 'x' ∨ letter = 'X') ∧ marked = false ∧ radix = 16)

section ReadsBack

variable {spec : Spec} {n : Int64} {radix : Nat}

theorem ReadsBack.denotes_digits {marked : Bool} (reads : ReadsBack spec.letter marked n radix) :
    Denotes radix n (spec.signOf n) (spec.digits n) := by
  unfold Spec.signOf Spec.digits
  rcases reads with
    ⟨letter, rfl⟩ | ⟨nonneg, ⟨letter, rfl⟩ | ⟨letter, rfl⟩ | ⟨letter | letter, _, rfl⟩⟩
  · rw [letter]
    exact denotes_signed spec n
  · rw [letter]
    exact denotes_unsigned nonneg (by decide) (by decide)
  · rw [letter]
    exact denotes_unsigned nonneg (by decide) (by decide)
  · rw [letter]
    exact denotes_unsigned nonneg (by decide) (by decide)
  · rw [letter]
    exact (denotes_unsigned nonneg (by decide) (by decide)).map_toUpper

theorem ReadsBack.radix_bounds {letter : Char} {marked : Bool}
    (reads : ReadsBack letter marked n radix) : 2 ≤ radix ∧ radix ≤ 16 := by
  rcases reads with ⟨_, rfl⟩ | ⟨_, ⟨_, rfl⟩ | ⟨_, rfl⟩ | ⟨_, _, rfl⟩⟩ <;> decide

theorem ReadsBack.ne_of_marked {letter : Char} {marked : Bool}
    (reads : ReadsBack letter marked n radix) (isMarked : marked = true) :
    letter ≠ 'x' ∧ letter ≠ 'X' := by
  rcases reads with ⟨rfl, _⟩ | ⟨_, ⟨rfl, _⟩ | ⟨rfl, _⟩ | ⟨_, plain, _⟩⟩
  · decide
  · decide
  · decide
  · rw [plain] at isMarked
    cases isMarked

theorem ReadsBack.denotes_parts (reads : ReadsBack spec.letter spec.alternate n radix) :
    Denotes radix n (spec.parts n).1 (spec.parts n).2 := by
  have ⟨least, _⟩ := reads.radix_bounds
  have digits := reads.denotes_digits.precise (by omega) spec
  unfold Spec.parts
  split
  · rename_i marked isLower
    exact absurd isLower (reads.ne_of_marked (Bool.and_eq_true_iff.mp marked).1).1
  · rename_i marked isUpper
    exact absurd isUpper (reads.ne_of_marked (Bool.and_eq_true_iff.mp marked).1).2
  · dsimp only
    split
    · exact digits
    · exact digits.zeros (by omega) 1
  · exact digits

/-- An integer is read again from what a conversion makes of it. -/
theorem ReadsBack.leadingInteger_int (reads : ReadsBack spec.letter spec.alternate n radix)
    (isDigits : spec.letter ∈ digitLetters) :
    Strings.leadingInteger (String.ofList (spec.int n)) radix = n := by
  have ⟨least, most⟩ := reads.radix_bounds
  rw [Spec.int_eq isDigits]
  exact reads.denotes_parts.leadingInteger least (by omega) spec _

end ReadsBack

/-! ### Written conversions -/

def flagMarks : List Char := ['-', '+', ' ', '#', '0']

def widthText (width : Option Nat) : List Char :=
  width.elim [] (Nat.toDigits 10)

def tailText (places : Option Nat) (letter : Char) : List Char :=
  places.elim [] (fun p => '.' :: Nat.toDigits 10 p) ++ [letter]

def conversionText (fs : List Char) (width places : Option Nat) (letter : Char) : String :=
  String.ofList ('%' :: (fs ++ (widthText width ++ tailText places letter)))

def Spec.withFlag (spec : Spec) : Char → Spec
  | '-' => { spec with left := true }
  | '+' => { spec with plus := true }
  | ' ' => { spec with space := true }
  | '#' => { spec with alternate := true }
  | '0' => { spec with zero := true }
  | _ => spec

theorem flags_append {fs : List Char} (areFlags : ∀ c ∈ fs, c ∈ flagMarks) {rest : List Char}
    (ends : ∀ c ∈ rest.head?, c ∉ flagMarks) (spec : Spec) :
    flags spec (fs ++ rest) = (fs.foldl Spec.withFlag spec, rest) := by
  induction fs generalizing spec with
  | nil =>
      rw [List.nil_append, flags]
      · rfl
      all_goals
        rintro cs rfl
        exact ends _ rfl (by decide)
  | cons c fs ih =>
      have isFlag := areFlags c List.mem_cons_self
      have ih := ih fun d member => areFlags d (List.mem_cons_of_mem c member)
      simp only [flagMarks, List.mem_cons, List.not_mem_nil, or_false] at isFlag
      rcases isFlag with rfl | rfl | rfl | rfl | rfl <;> exact ih _

section Parts

variable {letter : Char}

theorem cut_toDigits (n : Nat) {rest : List Char} (ends : ∀ c ∈ rest.head?, c.isDigit = false) :
    Numeral.value 10 ((Nat.toDigits 10 n ++ rest).takeWhile Char.isDigit) = n ∧
      (Nat.toDigits 10 n ++ rest).dropWhile Char.isDigit = rest := by
  have all : ∀ c ∈ Nat.toDigits 10 n, c.isDigit = true :=
    fun c member => Nat.isDigit_of_mem_toDigits (by decide) (by decide) member
  obtain ⟨taken, dropped⟩ := Text.cut_of_all all ends
  rw [taken, dropped, Numeral.value_toDigits (by decide) (by decide)]
  exact ⟨rfl, rfl⟩

theorem cut_widthText (width : Option Nat) {rest : List Char}
    (ends : ∀ c ∈ rest.head?, c.isDigit = false) :
    Numeral.value 10 ((widthText width ++ rest).takeWhile Char.isDigit) = width.getD 0 ∧
      (widthText width ++ rest).dropWhile Char.isDigit = rest := by
  cases width with
  | none =>
      obtain ⟨taken, dropped⟩ := @Text.cut_of_all Char.isDigit [] rest nofun ends
      rw [widthText, Option.elim_none, taken, dropped]
      exact ⟨rfl, rfl⟩
  | some w => exact cut_toDigits w ends

theorem apart_of_mem_digitLetters (isDigits : letter ∈ digitLetters) :
    letter.isDigit = false ∧ letter ≠ '.' ∧ letter ∉ flagMarks ∧
      afterSize false [letter] = [letter] := by
  simp only [digitLetters, List.mem_cons, List.not_mem_nil, or_false] at isDigits
  rcases isDigits with rfl | rfl | rfl | rfl | rfl <;> decide

theorem precision_tailText (places : Option Nat) (isDigits : letter ∈ digitLetters) :
    precision (tailText places letter) = (places, [letter]) := by
  obtain ⟨noDigit, noPoint, _⟩ := apart_of_mem_digitLetters isDigits
  cases places with
  | none =>
      rw [tailText, Option.elim_none, List.nil_append, precision]
      rintro cs same
      injection same with same
      exact noPoint same
  | some p =>
      have ends : ∀ c ∈ [letter].head?, c.isDigit = false := by
        rintro c ⟨⟩
        exact noDigit
      obtain ⟨value, rest⟩ := cut_toDigits p ends
      rw [tailText, Option.elim_some, List.cons_append, precision, value, rest]

theorem head_tailText (places : Option Nat) (isDigits : letter ∈ digitLetters) :
    ∀ c ∈ (tailText places letter).head?, c.isDigit = false ∧ c ∉ flagMarks := by
  obtain ⟨noDigit, _, noFlag, _⟩ := apart_of_mem_digitLetters isDigits
  cases places with
  | none =>
      rintro c ⟨⟩
      exact ⟨noDigit, noFlag⟩
  | some p =>
      rintro c ⟨⟩
      decide

/-- The first digit of a width is no zero, which would be a flag. -/
theorem head_widthText {width : Option Nat} (positive : width ≠ some 0) {rest : List Char}
    (ends : ∀ c ∈ rest.head?, c ∉ flagMarks) :
    ∀ c ∈ (widthText width ++ rest).head?, c ∉ flagMarks := by
  cases width with
  | none => exact ends
  | some w =>
      cases written : Nat.toDigits 10 w with
      | nil => exact absurd written Nat.toDigits_ne_nil
      | cons d ds =>
          have digit : d.isDigit = true :=
            Nat.isDigit_of_mem_toDigits (by decide) (by decide) (written ▸ List.mem_cons_self)
          have noZero : d ≠ '0' := by
            rintro rfl
            have first : (Nat.toDigits 10 w).head? = some '0' := by
              rw [written]
              rfl
            rw [Numeral.toDigits_of_leading_zero (by decide) (by decide) first] at positive
            exact positive rfl
          rw [widthText, Option.elim_some, written]
          rintro c ⟨⟩ isFlag
          simp only [flagMarks, List.mem_cons, List.not_mem_nil, or_false] at isFlag
          rcases isFlag with rfl | rfl | rfl | rfl | rfl
          · cases digit
          · cases digit
          · cases digit
          · cases digit
          · exact noZero rfl

theorem conversion?_text {fs : List Char} (areFlags : ∀ c ∈ fs, c ∈ flagMarks)
    {width : Option Nat} (positive : width ≠ some 0) (places : Option Nat)
    (isDigits : letter ∈ digitLetters) :
    conversion? (fs ++ (widthText width ++ tailText places letter)) =
      some ({ fs.foldl Spec.withFlag {} with
        width := width.getD 0, precision := places, letter }, []) := by
  have ends := head_tailText places isDigits
  have size := (apart_of_mem_digitLetters isDigits).2.2.2
  obtain ⟨isWidth, behind⟩ := cut_widthText width fun c isFirst => (ends c isFirst).1
  rw [conversion?, flags_append areFlags
    (head_widthText positive fun c isFirst => (ends c isFirst).2)]
  simp only [isWidth, behind, precision_tailText places isDigits, size]

end Parts

section Formats

variable {letter : Char}

theorem apply_of_mem_digitLetters {spec : Spec} (isDigits : spec.letter ∈ digitLetters) (n : Int64)
    (text : List Char) : (pieceOf spec text).apply (.int n) = spec.int n := by
  obtain ⟨left, plus, space, alternate, zero, width, precision, letter⟩ := spec
  simp only [digitLetters, List.mem_cons, List.not_mem_nil, or_false] at isDigits
  rcases isDigits with rfl | rfl | rfl | rfl | rfl <;> rfl

theorem format_of_conversion {cs : List Char} {spec : Spec} (read : conversion? cs = some (spec, []))
    (isDigits : spec.letter ∈ digitLetters) (n : Int64) :
    format (String.ofList ('%' :: cs)) (.int n) = String.ofList (spec.int n) := by
  have single : pieces (cs.length + 1 + 1) ('%' :: cs) =
      [pieceOf spec ('%' :: cs.take (cs.length - 0))] := by
    rw [pieces, read]
    rfl
  rw [format, String.toList_ofList, List.length_cons, single, List.flatMap_singleton,
    apply_of_mem_digitLetters isDigits]

/-- What a conversion makes of an integer. Its width may be the flag for zeros, if it is zero. -/
theorem format_conversionText {fs : List Char} (areFlags : ∀ c ∈ fs, c ∈ flagMarks)
    (width places : Option Nat) (isDigits : letter ∈ digitLetters) (n : Int64) :
    ∃ zero, format (conversionText fs width places letter) (.int n) =
      String.ofList (Spec.int { fs.foldl Spec.withFlag {} with
        zero, width := width.getD 0, precision := places, letter } n) := by
  by_cases none : width = some 0
  · have areFlags' : ∀ c ∈ fs ++ ['0'], c ∈ flagMarks := by
      intro c member
      rcases List.mem_append.mp member with flag | zero
      · exact areFlags c flag
      · rw [List.mem_singleton.mp zero]
        decide
    have noWidth : (Option.none : Option Nat) ≠ some 0 := nofun
    have read := conversion?_text areFlags' noWidth places isDigits
    have same : conversionText fs width places letter =
        String.ofList ('%' :: (fs ++ ['0'] ++ (widthText .none ++ tailText places letter))) := by
      rw [none, conversionText, List.append_assoc fs]
      rfl
    rw [same, format_of_conversion read isDigits, none, List.foldl_append]
    exact ⟨true, rfl⟩
  · have read := conversion?_text areFlags none places isDigits
    rw [conversionText, format_of_conversion read isDigits]
    exact ⟨_, rfl⟩

theorem alternate_foldl {fs : List Char} (plain : '#' ∉ fs) (spec : Spec) :
    (fs.foldl Spec.withFlag spec).alternate = spec.alternate := by
  induction fs generalizing spec with
  | nil => rfl
  | cons c fs ih =>
      rw [List.mem_cons, not_or] at plain
      rw [List.foldl_cons, ih plain.2]
      unfold Spec.withFlag
      split
      · rfl
      · rfl
      · rfl
      · exact absurd rfl plain.1
      · rfl
      · rfl

end Formats

/-- An integer is read again from every conversion of it, in the radix of the conversion: from signed
ones in any case, and from others if it is not negative and the radix is not marked. The text is as
long as the width or, if that is longer, as the text without a width. -/
theorem conversions_lose_nothing (n : Int64) {fs : List Char} (areFlags : ∀ c ∈ fs, c ∈ flagMarks)
    (width places : Option Nat) :
    let shown (width : Option Nat) (letter : Char) :=
      format (conversionText fs width places letter) (.int n)
    let reads (letter : Char) (radix : Nat) : Prop :=
      Strings.leadingInteger (shown width letter) radix = n
    reads 'd' 10 ∧
      (0 ≤ n → reads 'u' 10 ∧ reads 'o' 8 ∧ ('#' ∉ fs → reads 'x' 16 ∧ reads 'X' 16)) ∧
      ∀ letter ∈ ['d', 'u', 'o', 'x', 'X'], ∀ w, width = some w →
        (shown width letter).length = max w (shown none letter).length := by
  intro shown reads
  -- one lemma reads all conversions; what is left are the letters and their radix
  have readsBack {letter : Char} {radix : Nat} (isDigits : letter ∈ digitLetters)
      (isReadBack : ReadsBack letter (fs.foldl Spec.withFlag {}).alternate n radix) :
      reads letter radix := by
    obtain ⟨zero, text⟩ := format_conversionText areFlags width places isDigits n
    show Strings.leadingInteger (format _ _) radix = n
    rw [text]
    apply ReadsBack.leadingInteger_int _ isDigits
    exact isReadBack
  refine ⟨readsBack (by decide) (.inl ⟨rfl, rfl⟩), ?_, ?_⟩
  · intro nonneg
    refine ⟨readsBack (by decide) (.inr ⟨nonneg, .inl ⟨rfl, rfl⟩⟩),
      readsBack (by decide) (.inr ⟨nonneg, .inr (.inl ⟨rfl, rfl⟩)⟩), ?_⟩
    intro plain
    have unmarked := alternate_foldl plain {}
    exact ⟨readsBack (by decide) (.inr ⟨nonneg, .inr (.inr ⟨.inl rfl, unmarked, rfl⟩)⟩),
      readsBack (by decide) (.inr ⟨nonneg, .inr (.inr ⟨.inr rfl, unmarked, rfl⟩)⟩)⟩
  · rintro letter isDigits w rfl
    obtain ⟨zero, text⟩ := format_conversionText areFlags (some w) places isDigits n
    obtain ⟨zero', bare⟩ := format_conversionText areFlags none places isDigits n
    show (format _ _).length = max w (format _ _).length
    rw [text, bare, String.length_ofList, String.length_ofList]
    exact length_int isDigits n zero'

/-- The least integer with zeros that are no flag behind a precision, zero with a precision that leaves
no digit of it, and an integer that is longer than the width. -/
theorem conversions_of_least_and_zero :
    let shown (fs : List Char) (width places : Option Nat) (letter : Char) (n : Int64) :=
      format (conversionText fs width places letter) (.int n)
    let least := shown ['0', ' '] (some 25) (some 20) 'd' Int64.minValue
    let zero := shown ['-', '#'] (some 3) (some 0) 'o' 0
    let long := shown ['+'] (some 2) none 'X' 48879
    conversionText ['0', ' '] (some 25) (some 20) 'd' = "%0 25.20d" ∧
      least = "    -09223372036854775808" ∧
      Strings.leadingInteger least 10 = Int64.minValue ∧
      zero = "   " ∧ Strings.leadingInteger zero 8 = 0 ∧
      long = "BEEF" ∧ Strings.leadingInteger long 16 = 48879 ∧
      long.length = max 2 (shown ['+'] none none 'X' 48879).length := by
  intro shown least zero long
  have ofLeast := conversions_lose_nothing Int64.minValue
    (by simp [flagMarks] : ∀ c ∈ ['0', ' '], c ∈ flagMarks) (some 25) (some 20)
  have ofZero := conversions_lose_nothing 0
    (by simp [flagMarks] : ∀ c ∈ ['-', '#'], c ∈ flagMarks) (some 3) (some 0)
  have ofLong := conversions_lose_nothing 48879
    (by simp [flagMarks] : ∀ c ∈ ['+'], c ∈ flagMarks) (some 2) none
  exact ⟨by decide +kernel, by decide +kernel, ofLeast.1, by decide +kernel,
    (ofZero.2.1 (by decide)).2.1, by decide +kernel, ((ofLong.2.1 (by decide)).2.2 (by decide)).2,
    ofLong.2.2 'X' (by decide) 2 rfl⟩

end TemplateCalc.Printf
