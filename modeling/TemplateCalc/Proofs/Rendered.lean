import TemplateCalc.Proofs.Tree.Evaluation
import TemplateCalc.Render

/-!
Reading back the integers that are shown.

An integer is shown as a row of digits with marks between groups of them. With the mark as
separator, and in the radix in which the integer was shown, the text is read as the integer again.
-/

set_option autoImplicit false

namespace TemplateCalc

/-! ### Digits -/

namespace Numeral

theorem toNat_lt_of_isDigit {radix : Nat} {c : Char} (digit : isDigit radix c = true) :
    c.toNat < 0x80 := by
  unfold isDigit digit? digitWorth? at digit
  split at digit
  · rename_i decimal
    have last : c.toNat ≤ '9'.toNat := decimal.2
    exact Nat.lt_of_le_of_lt last (by decide)
  split at digit
  · rename_i small
    have last : c.toNat ≤ 'z'.toNat := small.2
    exact Nat.lt_of_le_of_lt last (by decide)
  split at digit
  · rename_i large
    have last : c.toNat ≤ 'Z'.toNat := large.2
    exact Nat.lt_of_le_of_lt last (by decide)
  · cases digit

/-- What holds of the digits among the first 128 characters holds of all digits. -/
theorem forall_isDigit {radix : Nat} {P : Char → Prop}
    (each : ∀ n < 0x80, isDigit radix (Char.ofNat n) = true → P (Char.ofNat n)) {c : Char}
    (digit : isDigit radix c = true) : P c := by
  have found := each c.toNat (toNat_lt_of_isDigit digit)
  rw [Char.ofNat_toNat] at found
  exact found digit

theorem isDigit_of_le {radix larger : Nat} (above : radix ≤ larger) {c : Char}
    (digit : isDigit radix c = true) : isDigit larger c = true := by
  cases worth : digitWorth? c with
  | none =>
      rw [isDigit, digit?, worth] at digit
      cases digit
  | some n =>
      exact isDigit_of_worth worth (Nat.lt_of_lt_of_le (worth_lt_of_isDigit digit worth) above)

theorem decimal_of_isDigit {radix : Nat} (small : radix ≤ 10) {c : Char}
    (digit : isDigit radix c = true) : c.isDigit = true :=
  forall_isDigit (P := fun c => c.isDigit = true) (by decide) (isDigit_of_le small digit)

theorem decimal_or_isNameStart {radix : Nat} (small : radix ≤ 36) {c : Char}
    (digit : isDigit radix c = true) : c.isDigit = true ∨ Text.isNameStart c = true :=
  forall_isDigit (P := fun c => c.isDigit = true ∨ Text.isNameStart c = true) (by decide)
    (isDigit_of_le small digit)

theorem isDigit_toLower {c : Char} (digit : isDigit 16 c = true) : isDigit 16 c.toLower = true :=
  forall_isDigit (P := fun c => isDigit 16 c.toLower = true) (by decide) digit

theorem digit?_zero {radix : Nat} (large : 1 < radix) (small : radix ≤ 16) :
    digit? radix '0' = some 0 :=
  digit?_digitChar small (Nat.lt_trans Nat.zero_lt_one large)

theorem value_text {radix : Nat} (large : 1 < radix) (small : radix ≤ 16) (width n : Nat) :
    value radix (text radix width n) = n := by
  rw [text]
  generalize width - (Nat.toDigits radix n).length = zeros
  induction zeros with
  | zero => exact value_toDigits large small n
  | succ zeros ih =>
      rw [value] at ih ⊢
      rw [List.replicate_succ, List.cons_append, List.foldl_cons, digit?_zero large small,
        Option.getD_some, Nat.zero_mul, ih]

theorem isDigit_of_mem_text {radix : Nat} (large : 1 < radix) (small : radix ≤ 16) (width n : Nat) :
    ∀ c ∈ text radix width n, isDigit radix c = true := by
  intro c member
  rcases List.mem_append.mp member with zero | digit
  · rw [(List.mem_replicate.mp zero).2]
    exact isDigit_of_worth rfl (by omega)
  · exact isDigit_of_mem_toDigits large small n c digit

theorem text_ne_nil (radix width n : Nat) : text radix width n ≠ [] := by
  rw [text]
  exact List.append_ne_nil_of_right_ne_nil _ Nat.toDigits_ne_nil

/-- Only the number zero is written with a leading zero. -/
theorem toDigits_of_leading_zero {radix : Nat} (large : 1 < radix) (small : radix ≤ 16) {n : Nat}
    (zero : (Nat.toDigits radix n).head? = some '0') : n = 0 := by
  induction n using Nat.strongRecOn with
  | ind n ih =>
      rw [Nat.toDigits_eq_if large] at zero
      split at zero
      · rename_i below
        have worth := digit?_digitChar small below
        rw [List.head?_cons, Option.some_inj] at zero
        rw [zero, digit?_zero large small, Option.some_inj] at worth
        exact worth.symm
      · rename_i above
        have less : n / radix < n := Nat.div_lt_self (by omega) large
        -- the leading digit is that of the quotient, which is not zero
        have front : (Nat.toDigits radix (n / radix)).head? = some '0' := by
          cases written : Nat.toDigits radix (n / radix) with
          | nil => exact absurd written Nat.toDigits_ne_nil
          | cons d ds =>
              rw [written] at zero
              exact zero
        have none := ih (n / radix) less front
        have positive : 0 < n / radix := Nat.div_pos (by omega) (by omega)
        omega

end Numeral

/-! ### Groups of digits -/

namespace Grouping

theorem mem_fromRight {mark : Char} {size : Nat} {ds : List Char} {c : Char}
    (member : c ∈ fromRight mark size ds) : c = mark ∨ c ∈ ds := by
  induction ds with
  | nil => cases member
  | cons d ds ih =>
      have cases : c = d ∨ c = mark ∨ c ∈ fromRight mark size ds := by
        rw [fromRight] at member
        split at member
        · simpa only [List.mem_cons] using member
        · exact (List.mem_cons.mp member).imp_right .inr
      rcases cases with rfl | isMark | others
      · exact .inr List.mem_cons_self
      · exact .inl isMark
      · exact (ih others).imp_right (List.mem_cons_of_mem d)

theorem head?_fromRight (mark : Char) (size : Nat) (ds : List Char) :
    (fromRight mark size ds).head? = ds.head? := by
  cases ds with
  | nil => rfl
  | cons d ds =>
      rw [fromRight]
      split <;> rfl

/-- A row of digits with nothing in front of it or behind it is divided as a whole. -/
theorem leading_digits {test : Char → Bool} (inside : ∀ c, test c = true → Text.isNameChar c = true)
    (mark : Char) (size : Nat) {ds : List Char} (all : ∀ c ∈ ds, test c = true) :
    leading test mark size (String.ofList ds) = String.ofList (fromRight mark size ds) := by
  have noBlanks : Text.skipBlanks ds = ds := by
    cases ds with
    | nil => rfl
    | cons d ds =>
        have first := Text.not_isBlank_of_isNameChar (inside d (all d List.mem_cons_self))
        rw [Text.skipBlanks, List.dropWhile_cons, first]
        rfl
  have noSign : ds.head?.any (fun c => c == '+' || c == '-') = false := by
    cases ds with
    | nil => rfl
    | cons d ds =>
        have first := inside d (all d List.mem_cons_self)
        have other {c : Char} (outside : Text.isNameChar c = false) : (d == c) = false := by
          rw [beq_eq_false_iff_ne]
          rintro rfl
          rw [first] at outside
          cases outside
        rw [List.head?_cons, Option.any_some, other (by decide), other (by decide)]
        rfl
  have taken : ds.takeWhile test = ds := Text.takeWhile_of_all all
  have dropped : ds.dropWhile test = [] := Text.dropWhile_of_all all
  simp only [leading, String.toList_ofList, noBlanks, noSign, Bool.false_eq_true, if_false,
    List.take_zero, List.drop_zero, taken, dropped, List.nil_append, List.append_nil]

end Grouping

/-! ### Reading groups -/

namespace Scan

theorem digits_grouped {radix : Nat} {mark : Char} (outside : Numeral.isDigit radix mark = false)
    (size : Nat) {ds : List Char} (all : ∀ c ∈ ds, Numeral.isDigit radix c = true)
    (started : Bool) :
    digits radix (some mark) started (Grouping.fromRight mark size ds) = (ds, []) := by
  induction ds generalizing started with
  | nil => rfl
  | cons d ds ih =>
      have first := all d List.mem_cons_self
      have ih := ih fun c member => all c (List.mem_cons_of_mem d member)
      rw [Grouping.fromRight]
      split
      · rename_i divided
        obtain ⟨_, more, _⟩ := divided
        have goesOn :
            startsWith (Numeral.isDigit radix) (Grouping.fromRight mark size ds) = true := by
          rw [startsWith, Grouping.head?_fromRight]
          cases ds with
          | nil => exact absurd rfl more
          | cons next ds => exact all next (by simp)
        have passed : digits radix (some mark) true (mark :: Grouping.fromRight mark size ds) =
            (ds, []) := by
          rw [digits, if_neg (by rw [outside]; exact Bool.false_ne_true), goesOn, beq_self_eq_true,
            if_pos (by rfl), ih true]
        rw [digits, if_pos first, passed]
      · rw [digits, if_pos first, ih true]

def keywords : List String :=
  constantWords ++ [.sizeof, .addressof, .string, .defined].map Inquiry.name ++ reservedWords ++
    Function.all.map Function.name ++ Function.aliases.map Prod.fst

theorem mem_keywords_of_isKeyword {word : String} (keyword : isKeyword word = true) :
    word ∈ keywords := by
  simp only [keywords, List.mem_append]
  simp only [isKeyword, Bool.or_eq_true, List.contains_iff_mem] at keyword
  rcases keyword with ((constant | inquiry) | reserved) | function
  · exact .inl (.inl (.inl (.inl constant)))
  · obtain ⟨found, isFound⟩ := Option.isSome_iff_exists.mp inquiry
    have same : found.name = word := by simpa using List.find?_some isFound
    rw [← same]
    exact .inl (.inl (.inl (.inr (List.mem_map_of_mem (List.mem_of_find?_eq_some isFound)))))
  · exact .inl (.inl (.inr reserved))
  · obtain ⟨found, isFound⟩ := Option.isSome_iff_exists.mp function
    rcases Option.or_eq_some_iff.mp isFound with named | ⟨_, other⟩
    · have same : found.name = word := by simpa using List.find?_some named
      rw [← same]
      exact .inl (.inr (List.mem_map_of_mem (List.mem_of_find?_eq_some named)))
    · obtain ⟨front, behind, parts, _⟩ := List.lookup_eq_some_iff.mp other
      refine .inr (List.mem_map.mpr ⟨(word, found), ?_, rfl⟩)
      rw [parts]
      exact List.mem_append_right front List.mem_cons_self

/-- No keyword is a hexadecimal number. -/
theorem not_isKeyword_of_digits {word : String}
    (all : ∀ c ∈ word.toList, Numeral.isDigit 16 c = true) : isKeyword word = false := by
  have each : ∀ name ∈ keywords, name.toList.all (Numeral.isDigit 16) = false := by decide
  rw [Bool.eq_false_iff]
  intro keyword
  have other := each word (mem_keywords_of_isKeyword keyword)
  rw [List.all_eq_true.mpr all] at other
  cases other

/-- A hexadecimal number in groups starts with a word that is a number. -/
theorem wordIsNumber_grouped (size : Nat) {ds : List Char}
    (all : ∀ c ∈ ds, Numeral.isDigit 16 c = true) :
    wordIsNumber 16 (Grouping.fromRight ' ' size ds) = true := by
  have word : ∀ c ∈ (Grouping.fromRight ' ' size ds).takeWhile Text.isNameChar,
      Numeral.isDigit 16 c = true := by
    intro c member
    have inside : Text.isNameChar c = true := List.all_eq_true.mp List.all_takeWhile c member
    rcases Grouping.mem_fromRight ((List.takeWhile_sublist _).mem member) with rfl | digit
    · exact absurd inside (by decide)
    · exact all c digit
  have noPair :
      ((Grouping.fromRight ' ' size ds).dropWhile Text.isNameChar).take 2 ≠ [':', ':'] := by
    intro pair
    have member : ':' ∈ Grouping.fromRight ' ' size ds := by
      apply (List.dropWhile_sublist Text.isNameChar).mem
      apply (List.take_sublist 2 _).mem
      rw [pair]
      exact List.mem_cons_self
    rcases Grouping.mem_fromRight member with blank | digit
    · cases blank
    · exact absurd (all ':' digit) (by decide)
  have noKeyword : isKeyword (String.ofList
      (((Grouping.fromRight ' ' size ds).takeWhile Text.isNameChar).map Char.toLower)) = false := by
    apply not_isKeyword_of_digits
    intro c member
    rw [String.toList_ofList] at member
    obtain ⟨upper, inWord, rfl⟩ := List.mem_map.mp member
    exact Numeral.isDigit_toLower (word upper inWord)
  simp only [wordIsNumber, List.all_eq_true.mpr word, beq_eq_false_iff_ne.mpr noPair, noKeyword]
  rfl

/-- A leading zero makes no mark with what follows it, which is another digit or, if the mark could
stand for a radix, nothing at all. -/
theorem markRadix?_grouped {radix : Nat} (small : radix ≤ 33) {mark : Char} {size : Nat}
    {ds : List Char} (all : ∀ c ∈ ds, Numeral.isDigit radix c = true)
    (leading : markRadix? radix mark = none ∨ (ds.head? = some '0' → ds = ['0'])) {c : Char}
    {rest : List Char} (shown : Grouping.fromRight mark size ds = '0' :: c :: rest) :
    markRadix? radix c = none := by
  have member : c ∈ Grouping.fromRight mark size ds := by simp [shown]
  rcases Grouping.mem_fromRight member with rfl | digit
  · apply leading.resolve_right
    intro noZero
    have first : ds.head? = some '0' := by
      rw [← Grouping.head?_fromRight c size ds, shown, List.head?_cons]
    rw [noZero first, Grouping.fromRight, if_neg fun divided => divided.2.1 rfl] at shown
    cases shown
  · exact markRadix?_of_isDigit small (all c digit)

/-- A row of digits in groups starts with a decimal digit or with a word of digits. -/
theorem numeral_grouped {rules : Rules} (supported : rules.radix ≤ 10 ∨ rules.radix = 16)
    {mark : Char} (divides : rules.divider = some mark) {size : Nat} {ds : List Char}
    (all : ∀ c ∈ ds, Numeral.isDigit rules.radix c = true) {c : Char} {cs : List Char}
    (shown : Grouping.fromRight mark size ds = c :: cs) :
    c.isDigit = true ∨ Text.isNameStart c = true ∧ 10 < rules.radix ∧
      wordIsNumber rules.radix (c :: cs) = true := by
  have digit : Numeral.isDigit rules.radix c = true := by
    apply all c
    apply List.mem_of_mem_head?
    rw [← Grouping.head?_fromRight mark size ds, shown, List.head?_cons, Option.mem_some]
  rcases supported with few | hex
  · exact .inl (Numeral.decimal_of_isDigit few digit)
  · -- above ten the mark is a blank, which ends the first word
    rw [hex] at digit all
    rw [Rules.divider, if_neg (by omega)] at divides
    obtain ⟨_, _, rfl⟩ := Option.map_eq_some_iff.mp divides
    refine (Numeral.decimal_or_isNameStart (by decide) digit).imp_right fun starts => ⟨starts, by omega, ?_⟩
    rw [hex, ← shown]
    exact wordIsNumber_grouped size all

/-- A row of digits in groups is read as the number that the digits denote. -/
theorem scan_grouped {rules : Rules} {radix : Nat} (isRadix : rules.radix = radix)
    (supported : radix ≤ 10 ∨ radix = 16) {mark : Char} (divides : rules.divider = some mark)
    (outside : Numeral.isDigit radix mark = false) (size : Nat) {ds : List Char} (isRow : ds ≠ [])
    (all : ∀ c ∈ ds, Numeral.isDigit radix c = true) {n : Int64}
    (denoted : Numeral.value radix ds = n.toUInt64.toNat)
    (leading : markRadix? radix mark = none ∨ (ds.head? = some '0' → ds = ['0'])) :
    scan rules (String.ofList (Grouping.fromRight mark size ds)) = ⟨[.int n], none⟩ := by
  subst isRadix
  have read :
      digits rules.radix rules.divider false (Grouping.fromRight mark size ds) = (ds, []) := by
    rw [divides]
    exact digits_grouped outside size all false
  have whole := number_whole read (Numeral.word?_of_value denoted) fun c rest =>
    markRadix?_grouped (by omega) all leading
  rw [Int64.toInt64_toUInt64] at whole
  cases shown : Grouping.fromRight mark size ds with
  | nil =>
      have first := Grouping.head?_fromRight mark size ds
      rw [shown, List.head?_nil, eq_comm, List.head?_eq_none_iff] at first
      exact absurd first isRow
  | cons c cs =>
      apply scan_of_reads
      rw [shown] at whole
      have numeral := numeral_grouped supported divides all shown
      exact alone_of_number String.toList_ofList numeral whole false

theorem scan_decimal_groups {mark : Char} (outside : mark.isDigit = false) (size : Nat)
    (n : Int64) :
    scan ⟨10, some mark⟩
      (String.ofList (Grouping.fromRight mark size (Nat.toDigits 10 n.toUInt64.toNat))) =
        ⟨[.int n], none⟩ := by
  have noDigit : Numeral.isDigit 10 mark = false := by
    rw [Bool.eq_false_iff]
    intro digit
    rw [Numeral.decimal_of_isDigit (by decide) digit] at outside
    cases outside
  have noZero : (Nat.toDigits 10 n.toUInt64.toNat).head? = some '0' →
      Nat.toDigits 10 n.toUInt64.toNat = ['0'] := by
    intro zero
    rw [Numeral.toDigits_of_leading_zero (by decide) (by decide) zero]
    rfl
  have ten : Rules.radix ⟨10, some mark⟩ = 10 := rfl
  exact scan_grouped ten (.inl (by decide)) rfl noDigit size Nat.toDigits_ne_nil
    (Numeral.isDigit_of_mem_toDigits (by decide) (by decide) _)
    (Numeral.value_toDigits (by decide) (by decide) _) (.inr noZero)

/-- A blank divides the digits of numbers in other radices, whatever the separator. -/
theorem scan_blank_digits {radix : Nat} (large : 1 < radix) (supported : radix < 10 ∨ radix = 16)
    (separator : Char) (size width : Nat) (n : Int64) :
    scan ⟨radix, some separator⟩
      (String.ofList (Grouping.fromRight ' ' size (Numeral.text radix width n.toUInt64.toNat))) =
        ⟨[.int n], none⟩ := by
  have small : radix ≤ 16 := by omega
  have divides : Rules.divider ⟨radix, some separator⟩ = some ' ' := by
    rw [Rules.divider, if_neg (by omega : ¬radix = 10)]
    rfl
  have noDigit : Numeral.isDigit radix ' ' = false := rfl
  have same : Rules.radix ⟨radix, some separator⟩ = radix := rfl
  exact scan_grouped same (by omega) divides noDigit size (Numeral.text_ne_nil _ _ _)
    (Numeral.isDigit_of_mem_text large small width _) (Numeral.value_text large small width _)
    (.inl rfl)

theorem scan_blank_groups {radix : Nat} (supported : radix = 8 ∨ radix = 16) (separator : Char)
    (size width : Nat) (n : Int64) :
    scan ⟨radix, some separator⟩
      (String.ofList (Grouping.fromRight ' ' size (Numeral.text radix width n.toUInt64.toNat))) =
        ⟨[.int n], none⟩ :=
  scan_blank_digits (by omega) (by omega) separator size width n

end Scan

/-! ### Shown integers -/

namespace Render

variable (n : Int64) (bytes : Nat)

theorem int_plain {cfg : FormatOptions} (noFormat : cfg.intFormat = "")
    (noUnsigned : cfg.unsignedFormat = "") :
    int n "" bytes true cfg = String.ofList
      (Grouping.fromRight cfg.groupChar cfg.groupSize (Nat.toDigits 10 n.toUInt64.toNat)) := by
  have all : ∀ c ∈ Nat.toDigits 10 n.toUInt64.toNat, c.isDigit = true :=
    fun c member => Nat.isDigit_of_mem_toDigits (by decide) (by decide) member
  rw [← Grouping.leading_digits (fun _ => Scan.isNameChar_of_decimal) _ _ all]
  simp [int, noFormat, noUnsigned, groupedDecimal, Grouping.decimal, Numeral.decimal]

theorem int_hex (unsigned : Bool) (cfg : FormatOptions) :
    int n "hex" bytes unsigned cfg = String.ofList
      (Grouping.fromRight ' ' 2 (Numeral.text 16 (bytes * 2) n.toUInt64.toNat)) := by
  simp [int, intAs]

theorem int_oct (unsigned : Bool) (cfg : FormatOptions) :
    int n "oct" bytes unsigned cfg = String.ofList
      (Grouping.fromRight ' ' 4 (Numeral.text 8 ((bytes * 8 + 2) / 3) n.toUInt64.toNat)) := by
  have all : ∀ c ∈ Numeral.text 8 ((bytes * 8 + 2) / 3) n.toUInt64.toNat,
      Numeral.isDigit 16 c = true := by
    intro c member
    have octal := Numeral.isDigit_of_mem_text (by decide) (by decide) _ _ c member
    exact Numeral.isDigit_of_le (by decide) octal
  rw [← Grouping.leading_digits (fun _ => Scan.isNameChar_of_isDigit) _ _ all]
  simp [int, intAs, Grouping.spaced]

end Render

/-! ### Evaluating shown integers -/

namespace Calculator

open Session

variable {σ : Type}

/-- A text that holds one integer evaluates to it. -/
theorem result_of_int (env : Surroundings σ) {options : EvalOptions} (c : Calculator σ)
    {text : String} {n : Int64} (scanned : Scan.scan options.rules text = ⟨[.int n], none⟩)
    (room : 1 ≤ options.maxDepth) : (c.evaluate env options text).result = .ok (.int n) := by
  have opened := c.session_of_tokens scanned
  have met : At [.int n] (c.opening (.int n) []) := ⟨rfl, rfl, rfl⟩
  rw [(evaluate_eq env options c text).1, run_of_session opened]
  exact ((evaluates_int n).whole (by decide) (by decide) room options.sideEffects met).1

/-- An integer is read again from the way it is shown: in decimal groups, if the options name the
mark between them, and in hexadecimal and octal groups, in the radix that belongs to them. The
integer may be negative, since it is shown without a sign. -/
theorem rendered_integer_reads_back (env : Surroundings σ) (options : EvalOptions)
    (c : Calculator σ) (n : Int64) (size : Int) (cfg : FormatOptions)
    (room : 1 ≤ options.maxDepth) (divided : options.digitSeparators = true) :
    let reads (text : String) := (c.evaluate env options text).result = .ok (.int n)
    (options.radix = 10 → options.separator = cfg.groupChar → cfg.groupChar.isDigit = false →
      cfg.intFormat = "" → cfg.unsignedFormat = "" →
        reads ((Value.int n).render "" size true cfg)) ∧
    (options.radix = 16 → ∀ unsigned, reads ((Value.int n).render "hex" size unsigned cfg)) ∧
    (options.radix = 8 → ∀ unsigned, reads ((Value.int n).render "oct" size unsigned cfg)) := by
  have rules {radix : Nat} (isRadix : options.radix = radix) (least : 2 ≤ radix)
      (most : radix ≤ 36) : options.rules = ⟨radix, some options.separator⟩ := by
    rw [EvalOptions.rules, if_pos divided, isRadix, Scan.Rules.within, Nat.min_eq_left most,
      Nat.max_eq_right least]
  refine ⟨?_, ?_, ?_⟩
  · intro ten separator outside noFormat noUnsigned
    apply result_of_int env c ?_ room
    rw [rules ten (by decide) (by decide), separator, Value.render,
      Render.int_plain n _ noFormat noUnsigned]
    exact Scan.scan_decimal_groups outside _ n
  · intro hex unsigned
    apply result_of_int env c ?_ room
    rw [rules hex (by decide) (by decide), Value.render, Render.int_hex]
    exact Scan.scan_blank_groups (.inr rfl) _ _ _ n
  · intro octal unsigned
    apply result_of_int env c ?_ room
    rw [rules octal (by decide) (by decide), Value.render, Render.int_oct]
    exact Scan.scan_blank_groups (.inl rfl) _ _ _ n

/-- The integer with all bits set, with points between decimal groups. -/
theorem minus_one_reads_back :
    let c : Calculator Unit := { random := Random.ofSeed 0, dialog := () }
    let cfg : FormatOptions := { groupChar := '.' }
    let options (radix : Nat) : EvalOptions :=
      { radix, digitSeparators := true, separator := '.', maxDepth := 1 }
    let reads (radix : Nat) (text : String) :=
      (c.evaluate ⟨Host.none, none, 0⟩ (options radix) text).result = .ok (.int (-1))
    (Value.int (-1)).render "" 4 true cfg = "18.446.744.073.709.551.615" ∧
      reads 10 ((Value.int (-1)).render "" 4 true cfg) ∧
      reads 16 ((Value.int (-1)).render "hex" 4 false cfg) ∧
      reads 8 ((Value.int (-1)).render "oct" 4 false cfg) := by
  intro c cfg options reads
  have readsBack (radix : Nat) := rendered_integer_reads_back ⟨Host.none, none, 0⟩ (options radix) c
    (-1) 4 cfg (by decide : 1 ≤ 1) rfl
  refine ⟨by decide +kernel, (readsBack 10).1 rfl rfl (by decide) rfl rfl, ?_, ?_⟩
  · exact (readsBack 16).2.1 rfl false
  · exact (readsBack 8).2.2 rfl false

end Calculator

end TemplateCalc
