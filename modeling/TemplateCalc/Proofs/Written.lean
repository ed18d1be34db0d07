import TemplateCalc.Proofs.Reading

/-!
Reading back the texts of tokens.

Tokens that are written one behind the other with a blank in between are read back as they are, if
each of them alone is read back from its text.
-/

set_option autoImplicit false

namespace TemplateCalc

/-! ### Blanks -/

namespace Text

def wideBlanks : List (Nat × Nat) :=
  [(0x85, 0x85), (0xA0, 0xA0), (0x1680, 0x1680), (0x2000, 0x200A), (0x2028, 0x2029),
    (0x202F, 0x202F), (0x205F, 0x205F), (0x3000, 0x3000)]

def avoidsBlanks (ranges : Array (Nat × Nat)) : Bool :=
  ranges.toList.all fun (first, last) =>
    wideBlanks.all fun (least, greatest) => Nat.blt last least || Nat.blt greatest first

theorem not_inRanges_of_blank {ranges : Array (Nat × Nat)} (avoids : avoidsBlanks ranges = true)
    {least greatest n : Nat} (blank : (least, greatest) ∈ wideBlanks) (above : least ≤ n)
    (below : n ≤ greatest) : inRanges ranges n = false := by
  rw [Bool.eq_false_iff]
  intro inside
  rw [inRanges, ← Array.any_toList, List.any_eq_true] at inside
  obtain ⟨⟨first, last⟩, member, within⟩ := inside
  have apart := List.all_eq_true.mp (List.all_eq_true.mp avoids _ member) _ blank
  simp only [Bool.or_eq_true, Nat.blt_eq, Bool.and_eq_true, decide_eq_true_eq] at apart within
  omega

theorem not_isBlank_of_isNameChar {c : Char} (inside : isNameChar c = true) :
    isBlank c = false := by
  rw [Bool.eq_false_iff]
  intro blank
  simp only [isBlank, Bool.or_eq_true, Bool.and_eq_true, decide_eq_true_eq, beq_iff_eq] at blank
  have outside : isNameChar c = false := by
    -- the six small blanks are looked at one by one, the others lie beside all ranges of letters
    by_cases ascii : c.toNat < 0x80
    · have each : ∀ n ∈ [9, 10, 11, 12, 13, 32], isNameChar (Char.ofNat n) = false := by decide
      have found := each c.toNat (by
        simp only [List.mem_cons, List.not_mem_nil, or_false]
        omega)
      rwa [Char.ofNat_toNat] at found
    · have wide : wideBlanks.any (fun (least, greatest) =>
          least ≤ c.toNat && c.toNat ≤ greatest) = true := by
        simp only [wideBlanks, List.any_cons, List.any_nil, Bool.or_eq_true, Bool.and_eq_true,
          decide_eq_true_eq, Bool.false_eq_true, or_false]
        omega
      obtain ⟨⟨least, greatest⟩, wide, within⟩ := List.any_eq_true.mp wide
      obtain ⟨above, below⟩ : least ≤ c.toNat ∧ c.toNat ≤ greatest := by simpa using within
      have noLetter := not_inRanges_of_blank (by decide +kernel : avoidsBlanks letterRanges = true)
        wide above below
      have noNumeral := not_inRanges_of_blank
        (by decide +kernel : avoidsBlanks numeralRanges = true) wide above below
      have noUnderscore : (c == '_') = false := by
        rw [beq_eq_false_iff_ne]
        rintro rfl
        exact ascii (by decide)
      rw [isNameChar, isAlphanumeric, isLetter, isNumeral, if_neg ascii, if_neg ascii, noLetter,
        noNumeral, noUnderscore]
      rfl
  rw [outside] at inside
  cases inside

/-- What satisfies a test is cut off in front of a character that does not. -/
theorem cut_of_all {test : Char → Bool} {cs rest : List Char} (all : ∀ c ∈ cs, test c = true)
    (ends : ∀ c ∈ rest.head?, test c = false) :
    (cs ++ rest).takeWhile test = cs ∧ (cs ++ rest).dropWhile test = rest := by
  rw [List.takeWhile_append_of_pos all, List.dropWhile_append_of_pos all]
  cases rest with
  | nil => exact ⟨List.append_nil cs, rfl⟩
  | cons c rest =>
      have outside : ¬test c = true := by
        rw [ends c rfl]
        exact Bool.false_ne_true
      rw [List.takeWhile_cons_of_neg outside, List.dropWhile_cons_of_neg outside, List.append_nil]
      exact ⟨rfl, rfl⟩

theorem takeWhile_of_all {test : Char → Bool} {cs : List Char} (all : ∀ c ∈ cs, test c = true) :
    cs.takeWhile test = cs := by
  have cut := @cut_of_all test cs [] all nofun
  rw [List.append_nil] at cut
  exact cut.1

theorem dropWhile_of_all {test : Char → Bool} {cs : List Char} (all : ∀ c ∈ cs, test c = true) :
    cs.dropWhile test = [] := by
  have cut := @cut_of_all test cs [] all nofun
  rw [List.append_nil] at cut
  exact cut.2

end Text

/-! ### Numerals -/

namespace Numeral

theorem digit?_digitChar {radix digit : Nat} (small : radix ≤ 16) (below : digit < radix) :
    digit? radix digit.digitChar = some digit := by
  have worth : ∀ digit : Fin 16, digitWorth? (Nat.digitChar digit) = some digit.val := by decide
  have found := worth ⟨digit, by omega⟩
  simp only at found
  rw [digit?, found, Option.filter_some, if_pos (decide_eq_true below)]

theorem isDigit_digitChar {radix digit : Nat} (small : radix ≤ 16) (below : digit < radix) :
    isDigit radix digit.digitChar = true := by
  rw [isDigit, digit?_digitChar small below]
  rfl

theorem isDigit_of_mem_toDigits {radix : Nat} (large : 1 < radix) (small : radix ≤ 16) (n : Nat) :
    ∀ c ∈ Nat.toDigits radix n, isDigit radix c = true := by
  induction n using Nat.strongRecOn with
  | ind n ih =>
      rw [Nat.toDigits_eq_if large]
      intro c member
      split at member
      · rename_i below
        rw [List.mem_singleton.mp member]
        exact isDigit_digitChar small below
      · rename_i above
        have less : n / radix < n := Nat.div_lt_self (by omega) large
        have last : n % radix < radix := Nat.mod_lt n (by omega)
        rcases List.mem_append.mp member with front | back
        · exact ih (n / radix) less c front
        · rw [List.mem_singleton.mp back]
          exact isDigit_digitChar small last

theorem value_toDigits {radix : Nat} (large : 1 < radix) (small : radix ≤ 16) (n : Nat) :
    value radix (Nat.toDigits radix n) = n := by
  induction n using Nat.strongRecOn with
  | ind n ih =>
      rw [Nat.toDigits_eq_if large]
      split
      · rename_i below
        simp only [value, List.foldl_cons, List.foldl_nil, digit?_digitChar small below]
        simp
      · rename_i above
        have less : n / radix < n := Nat.div_lt_self (by omega) large
        have last : n % radix < radix := Nat.mod_lt n (by omega)
        have front := ih (n / radix) less
        simp only [value] at front ⊢
        rw [List.foldl_append, front, List.foldl_cons, List.foldl_nil,
          digit?_digitChar small last, Option.getD_some, Nat.mul_comm]
        exact Nat.div_add_mod n radix

theorem worth_lt_of_isDigit {radix : Nat} {c : Char} (digit : isDigit radix c = true) {n : Nat}
    (worth : digitWorth? c = some n) : n < radix := by
  rw [isDigit, digit?, worth, Option.filter_some] at digit
  split at digit
  · rename_i below
    exact of_decide_eq_true below
  · cases digit

theorem isDigit_of_worth {radix : Nat} {c : Char} {n : Nat} (worth : digitWorth? c = some n)
    (below : n < radix) : isDigit radix c = true := by
  rw [isDigit, digit?, worth, Option.filter_some, if_pos (decide_eq_true below)]
  rfl

theorem word?_of_value {radix : Nat} {ds : List Char} {n : UInt64}
    (denoted : value radix ds = n.toNat) : word? radix ds = some n := by
  have fits : n.toNat < UInt64.size := n.toNat_lt
  simp only [word?, denoted, if_pos fits, UInt64.ofNat_toNat]

/-- An integer that is not negative is the same number with and without a sign. -/
theorem natAbs_of_nonneg {n : Int64} (nonneg : 0 ≤ n) : n.toInt.natAbs = n.toUInt64.toNat := by
  have sign : 0 ≤ n.toInt := Int64.le_iff_toInt_le.mp nonneg
  have bound := n.toInt_lt
  have fits : n.toInt.natAbs < 2 ^ 64 := by omega
  have same : Int64.ofNat n.toInt.natAbs = n := by
    rw [← Int64.ofInt_eq_ofNat, Int.natAbs_of_nonneg sign, Int64.ofInt_toInt]
  calc n.toInt.natAbs = (UInt64.ofNat n.toInt.natAbs).toNat := (UInt64.toNat_ofNat_of_lt fits).symm
    _ = (Int64.ofNat n.toInt.natAbs).toUInt64.toNat := by rw [Int64.toUInt64_ofNat']
    _ = n.toUInt64.toNat := by rw [same]

theorem word?_natAbs {n : Int64} (positive : 0 ≤ n) :
    word? 10 (Nat.toDigits 10 n.toInt.natAbs) = some n.toUInt64 := by
  apply word?_of_value
  rw [value_toDigits (by decide) (by decide), natAbs_of_nonneg positive]

end Numeral

namespace Scan

variable {rules : Rules}

/-! ### Integers -/

theorem digits_whole {radix : Nat} {separator : Option Char} {ds : List Char}
    (all : ∀ c ∈ ds, Numeral.isDigit radix c = true) (started : Bool) :
    digits radix separator started ds = (ds, []) := by
  induction ds generalizing started with
  | nil => rfl
  | cons c ds ih =>
      rw [digits, if_pos (all c (List.mem_cons_self ..)),
        ih fun d member => all d (List.mem_cons_of_mem c member)]

def Rules.divider (rules : Rules) : Option Char :=
  if rules.radix = 10 then rules.separator else rules.separator.map fun _ => ' '

/-- A row of digits with nothing behind it is read as an integer. -/
theorem unmarked_digits {start ds : List Char}
    (read : digits rules.radix rules.divider false start = (ds, [])) :
    unmarked rules start = integer rules.radix ds [] := by
  unfold unmarked
  split
  · rename_i ten
    rw [Rules.divider, if_pos ten, ten] at read
    rw [decimal, read, ten]
    rfl
  · rename_i other
    rw [Rules.divider, if_neg other] at read
    rw [inRadix, read]
    rfl

/-- In a radix of at most 33 no digit behind a leading zero makes a mark. -/
theorem markRadix?_of_isDigit {radix : Nat} (small : radix ≤ 33) {c : Char}
    (digit : Numeral.isDigit radix c = true) : markRadix? radix c = none := by
  have least {c' : Char} {n : Nat} (worth : Numeral.digitWorth? c' = some n) (same : c = c') :
      n < radix :=
    Numeral.worth_lt_of_isDigit (same ▸ digit) worth
  have noHex : ¬(c = 'x' ∨ c = 'X') := by
    rintro (same | same) <;> have above := @least _ 33 rfl same <;> omega
  have noBinary : ¬((c = 'b' ∨ c = 'B') ∧ radix ≤ 11) := by
    rintro ⟨same | same, most⟩ <;> have above := @least _ 11 rfl same <;> omega
  have noOctal : ¬((c = 'o' ∨ c = 'O') ∧ radix ≤ 24) := by
    rintro ⟨same | same, most⟩ <;> have above := @least _ 24 rfl same <;> omega
  rw [markRadix?, if_neg noHex, if_neg noBinary, if_neg noOctal]

/-- So is one that does not start with a mark. -/
theorem number_digits {start ds : List Char}
    (read : digits rules.radix rules.divider false start = (ds, []))
    (noMark : ∀ c rest, start = '0' :: c :: rest → markRadix? rules.radix c = none) :
    number rules start = integer rules.radix ds [] := by
  have whole := unmarked_digits read
  unfold number
  split
  · rename_i c rest
    rw [noMark c rest rfl]
    exact whole
  · exact whole

/-- A row of digits that does not start with a mark is read as the number it denotes. -/
theorem number_whole {start ds : List Char}
    (read : digits rules.radix rules.divider false start = (ds, [])) {n : UInt64}
    (fits : Numeral.word? rules.radix ds = some n)
    (noMark : ∀ c rest, start = '0' :: c :: rest → markRadix? rules.radix c = none) :
    number rules start = .ok (.int n.toInt64, []) := by
  rw [number_digits read noMark, integer, fits]

/-! ### Names -/

def isName (cs : List Char) : Bool :=
  startsWith Text.isNameStart cs && (name cs).2.isEmpty

theorem name_parts (cs : List Char) : (name cs).1 ++ (name cs).2 = cs := by
  fun_induction name cs with
  | case1 => rfl
  | case2 c rest starts chars behind found ih =>
      rw [found] at ih
      simp only [List.cons_append, ih]
  | case3 => rfl
  | case4 c rest _ inside chars behind found ih =>
      rw [found] at ih
      simp only [List.cons_append, ih]
  | case5 => rfl

theorem name_whole {cs : List Char} (isWhole : isName cs = true) : name cs = (cs, []) := by
  simp only [isName, Bool.and_eq_true, List.isEmpty_iff] at isWhole
  have parts := name_parts cs
  rw [isWhole.2, List.append_nil] at parts
  rw [← isWhole.2]
  exact Prod.ext parts rfl

/-! ### Tokens that stand alone -/

/-- A text is read as one token, whatever stands in front of it. -/
def Alone (rules : Rules) (text : String) (token : Token) : Prop :=
  ∀ afterOperand, Reads rules afterOperand text.toList [token] none

theorem alone_of_tokenFrom {text : String} {c : Char} {cs : List Char} {token : Token}
    (isText : text.toList = c :: cs) (notBlank : Text.isBlank c = false)
    (read : ∀ afterOperand, tokenFrom rules afterOperand c cs = .ok (token, [])) :
    Alone rules text token := by
  intro afterOperand
  rw [isText]
  refine .token ?_ (read afterOperand) (.finish rfl)
  rw [Text.skipBlanks, List.dropWhile_cons, notBlank]
  rfl

/-- Where a number starts: with a decimal digit or a word of digits. -/
theorem tokenFrom_number {c : Char} {cs : List Char}
    (numeral : c.isDigit = true ∨
      Text.isNameStart c = true ∧ 10 < rules.radix ∧ wordIsNumber rules.radix (c :: cs) = true)
    (afterOperand : Bool) :
    Text.isBlank c = false ∧ tokenFrom rules afterOperand c cs = number rules (c :: cs) := by
  have inside : Text.isNameChar c = true := by
    rcases numeral with digit | ⟨starts, _⟩
    · exact isNameChar_of_decimal digit
    · exact isNameChar_of_isNameStart starts
  refine ⟨Text.not_isBlank_of_isNameChar inside, ?_⟩
  rw [tokenFrom]
  split
  · rfl
  · -- a word, which is tried as a number before it is a name
    rename_i noNumeral
    simp only [Bool.or_eq_true, not_or] at noNumeral
    obtain ⟨starts, large, isNumber⟩ := numeral.resolve_left noNumeral.1
    rw [if_pos starts, isNumber, decide_eq_true large]
    rfl

/-- A text that is read as a number. -/
theorem alone_of_number {text : String} {c : Char} {cs : List Char} {token : Token}
    (isText : text.toList = c :: cs)
    (numeral : c.isDigit = true ∨
      Text.isNameStart c = true ∧ 10 < rules.radix ∧ wordIsNumber rules.radix (c :: cs) = true)
    (read : number rules (c :: cs) = .ok (token, [])) : Alone rules text token := by
  have starts (afterOperand : Bool) := tokenFrom_number numeral afterOperand
  apply alone_of_tokenFrom isText (starts false).1
  intro afterOperand
  rw [(starts afterOperand).2, read]

theorem alone_int (ten : rules.radix = 10) {n : Int64} (positive : 0 ≤ n) :
    Alone rules (Token.int n).text (.int n) := by
  have sign : ¬n.toInt < 0 := Int.not_lt.mpr (Int64.le_iff_toInt_le.mp positive)
  have isText : (Token.int n).text.toList = Nat.toDigits 10 n.toInt.natAbs := by
    rw [Token.text, Numeral.signed, if_neg sign, Numeral.decimal, String.toList_ofList]
  have all : ∀ c ∈ Nat.toDigits 10 n.toInt.natAbs, Numeral.isDigit rules.radix c = true := by
    rw [ten]
    exact Numeral.isDigit_of_mem_toDigits (by decide) (by decide) _
  have fits : Numeral.word? rules.radix (Nat.toDigits 10 n.toInt.natAbs) = some n.toUInt64 := by
    rw [ten]
    exact Numeral.word?_natAbs positive
  have read := number_whole (digits_whole all false) fits fun c rest isDigits =>
    markRadix?_of_isDigit (by omega) (all c (by simp [isDigits]))
  rw [Int64.toInt64_toUInt64] at read
  cases written : Nat.toDigits 10 n.toInt.natAbs with
  | nil => exact absurd written Nat.toDigits_ne_nil
  | cons c cs =>
      have digit : c.isDigit = true :=
        Nat.isDigit_of_mem_toDigits (by decide) (by decide) (written ▸ List.mem_cons_self)
      rw [written] at isText read
      exact alone_of_number isText (.inl digit) read

/-- A word that is no numeral is read as far as its name goes. -/
theorem tokenFrom_name {c : Char} {cs more : List Char} (starts : Text.isNameStart c = true)
    (noNumber : 10 < rules.radix → wordIsNumber rules.radix (c :: (cs ++ more)) = false)
    (named : name (c :: (cs ++ more)) = (c :: cs, more)) (afterOperand : Bool) :
    tokenFrom rules afterOperand c (cs ++ more) = .ok (.word (String.ofList (c :: cs)), more) := by
  have noDigit : c.isDigit = false := by
    rw [Bool.eq_false_iff]
    intro digit
    rw [not_isNameStart_of_decimal digit] at starts
    cases starts
  have noPoint : (c == '.') = false := by
    rw [beq_eq_false_iff_ne]
    rintro rfl
    exact absurd starts (by decide)
  have noLetters : (decide (rules.radix > 10) && wordIsNumber rules.radix (c :: (cs ++ more))) =
      false := by
    by_cases large : 10 < rules.radix
    · rw [noNumber large, Bool.and_false]
    · rw [decide_eq_false large, Bool.false_and]
  rw [tokenFrom, noDigit, noPoint, starts, noLetters, named]
  rfl

def EndsName (tail : List Char) : Prop :=
  ∀ d more, tail = d :: more → Text.isNameChar d = false ∧ d ≠ ':'

theorem endsName_nil : EndsName [] :=
  fun _ _ impossible => by cases impossible

/-- A word that is no numeral is read as a whole, up to a character that is no part of names. -/
theorem Reads.word {word tail : List Char} {tokens : List Token} {fault : Option LexicalFault}
    (isWhole : isName word = true) (ends : EndsName tail)
    (noNumber : 10 < rules.radix → wordIsNumber rules.radix (word ++ tail) = false)
    (behind : Reads rules true tail tokens fault) (afterOperand : Bool) :
    Reads rules afterOperand (word ++ tail) (.word (String.ofList word) :: tokens) fault := by
  have whole := name_whole isWhole
  cases word with
  | nil => cases isWhole
  | cons c cs =>
      simp only [isName, Bool.and_eq_true] at isWhole
      have starts : Text.isNameStart c = true := isWhole.1
      have named : name (c :: (cs ++ tail)) = (c :: cs, tail) := by
        cases tail with
        | nil => rw [List.append_nil, whole]
        | cons d more =>
            obtain ⟨outside, noColon⟩ := ends d more rfl
            rw [← List.cons_append, name_before outside noColon, whole]
            rfl
      refine .token ?_ (tokenFrom_name starts noNumber named afterOperand) behind
      rw [List.cons_append, Text.skipBlanks, List.dropWhile_cons,
        Text.not_isBlank_of_isNameChar (isNameChar_of_isNameStart starts)]
      rfl

theorem alone_word (ten : rules.radix = 10) {word : String} (isWhole : isName word.toList = true) :
    Alone rules (Token.word word).text (.word word) := by
  intro afterOperand
  have small : ¬10 < rules.radix := by omega
  have reads := Reads.word isWhole endsName_nil (absurd · small) (.finish rfl) afterOperand
  rwa [List.append_nil, String.ofList_toList] at reads

def escape (cs : List Char) : List Char :=
  cs.flatMap fun c => if c = '"' ∨ c = '\\' then ['\\', c] else [c]

def constant (text : String) : String :=
  "\"" ++ String.ofList (escape text.toList) ++ "\""

theorem stringTail_escape (cs : List Char) : stringTail (escape cs ++ ['"']) = some (cs, []) := by
  induction cs with
  | nil => rfl
  | cons c cs ih =>
      by_cases special : c = '"' ∨ c = '\\'
      · have shown : escape (c :: cs) ++ ['"'] = '\\' :: c :: (escape cs ++ ['"']) := by
          simp [escape, special]
        rw [shown]
        rcases special with rfl | rfl <;> simp [stringTail, ih, escaped?]
      · have shown : escape (c :: cs) ++ ['"'] = c :: (escape cs ++ ['"']) := by
          simp [escape, special]
        rw [shown, stringTail_plain (fun mark => special (.inl mark))
          (fun backslash => special (.inr backslash)), ih]
        rfl

theorem alone_constant {text : String} (noEnd : '\x00' ∉ text.toList) :
    Alone rules (constant text) (.str text) := by
  have isText : (constant text).toList = '"' :: (escape text.toList ++ ['"']) := by
    simp [constant]
  apply alone_of_tokenFrom isText (by decide)
  intro afterOperand
  have kept : text.toList.takeWhile (· != '\x00') = text.toList := by
    apply Text.takeWhile_of_all
    intro c member
    rw [bne_iff_ne]
    rintro rfl
    exact noEnd member
  change string (escape text.toList ++ ['"']) = _
  rw [string, stringTail_escape]
  simp only [kept, String.ofList_toList]

theorem escape_eq_self {cs : List Char} (plain : ∀ c ∈ cs, c ≠ '"' ∧ c ≠ '\\') :
    escape cs = cs := by
  induction cs with
  | nil => rfl
  | cons c cs ih =>
      have first := plain c (List.mem_cons_self ..)
      have others := ih fun d member => plain d (List.mem_cons_of_mem c member)
      rw [escape, List.flatMap_cons, if_neg (not_or.mpr first), ← escape, others]
      rfl

def isPlain (text : String) : Bool :=
  text.toList.all fun c => c != '"' && c != '\\' && c != '\x00'

theorem alone_str {text : String} (plain : isPlain text = true) :
    Alone rules (Token.str text).text (.str text) := by
  simp only [isPlain, List.all_eq_true, Bool.and_eq_true, bne_iff_ne] at plain
  have same : (Token.str text).text = constant text := by
    rw [constant, escape_eq_self fun c member => (plain c member).1, String.ofList_toList]
    rfl
  rw [same]
  exact alone_constant fun member => (plain _ member).2 rfl

def isMark : Token → Bool
  | .int _ | .real _ | .str _ | .word _ | .quoted _ | .finish => false
  | _ => true

theorem alone_mark {token : Token} (mark : isMark token = true) :
    Alone rules token.text token := by
  cases token with
  | int | real | str | word | quoted | finish => cases mark
  | operator op =>
      rcases op with op | op <;> cases op <;>
        exact alone_of_tokenFrom rfl (by decide) fun _ => rfl
  | assign op =>
      rcases op with _ | op
      · exact alone_of_tokenFrom rfl (by decide) fun _ => rfl
      · cases op <;> exact alone_of_tokenFrom rfl (by decide) fun _ => rfl
  | step s => cases s <;> exact alone_of_tokenFrom rfl (by decide) fun _ => rfl
  | dot => exact alone_of_tokenFrom rfl (by decide) fun afterOperand => by cases afterOperand <;> rfl
  | _ => exact alone_of_tokenFrom rfl (by decide) fun _ => rfl

/-! ### Rows of tokens -/

def spaced (write : Token → String) (tokens : List Token) : String :=
  " ".intercalate (tokens.map write)

/-- Tokens are read back from their texts with blanks in between. -/
theorem scan_spaced (plain : rules.separator = none) {write : Token → String}
    {tokens : List Token} (each : ∀ token ∈ tokens, Alone rules (write token) token) :
    scan rules (spaced write tokens) = ⟨tokens, none⟩ := by
  apply scan_of_reads
  suffices reads : ∀ afterOperand, Reads rules afterOperand (spaced write tokens).toList tokens none
    from reads false
  induction tokens with
  | nil => exact fun _ => .finish rfl
  | cons token others ih =>
      intro afterOperand
      have first := each token (List.mem_cons_self ..) afterOperand
      have ih := ih fun token member => each token (List.mem_cons_of_mem _ member)
      cases others with
      | nil =>
          rw [spaced, List.map_singleton, String.intercalate_singleton]
          exact first
      | cons next others =>
          have text : (spaced write (token :: next :: others)).toList =
              (write token).toList ++ ' ' :: (spaced write (next :: others)).toList := by
            simp [spaced, String.intercalate_cons_cons]
          rw [text]
          exact first.append (by decide) plain (ih _).space

end Scan

end TemplateCalc
