import TemplateCalc.Token.Scan

/-!
How one token is cut off the front of a text.

Every scanner takes at least one character for a token. And it does not look behind a character that
cannot belong to the token: what was read from a text alone is also read if such a character and any
others follow.
-/

set_option autoImplicit false

namespace TemplateCalc.Scan

/-! ### Characters -/

theorem isUpper_iff {c : Char} : c.isUpper = true ↔ 65 ≤ c.toNat ∧ c.toNat ≤ 90 := by
  change decide ('A'.val ≤ c.val ∧ c.val ≤ 'Z'.val) = true ↔ _
  simp only [decide_eq_true_eq, UInt32.le_iff_toNat_le]
  exact Iff.rfl

theorem isLower_iff {c : Char} : c.isLower = true ↔ 97 ≤ c.toNat ∧ c.toNat ≤ 122 := by
  change (decide ('a'.val ≤ c.val) && decide (c.val ≤ 'z'.val)) = true ↔ _
  simp only [Bool.and_eq_true, decide_eq_true_eq, UInt32.le_iff_toNat_le]
  exact Iff.rfl

theorem isAlpha_iff {c : Char} : c.isAlpha = true ↔
    (65 ≤ c.toNat ∧ c.toNat ≤ 90) ∨ (97 ≤ c.toNat ∧ c.toNat ≤ 122) := by
  change (c.isUpper || c.isLower) = true ↔ _
  rw [Bool.or_eq_true, isUpper_iff, isLower_iff]

theorem isDigit_iff {c : Char} : c.isDigit = true ↔ 48 ≤ c.toNat ∧ c.toNat ≤ 57 :=
  Char.isDigit_iff_toNat

theorem isAlphanum_iff {c : Char} :
    c.isAlphanum = true ↔ c.isAlpha = true ∨ c.isDigit = true := by
  change (c.isAlpha || c.isDigit) = true ↔ _
  rw [Bool.or_eq_true]

theorem isNameChar_of_isAlphanum {c : Char} (alphanum : c.isAlphanum = true) :
    Text.isNameChar c = true := by
  rw [isAlphanum_iff] at alphanum
  have ascii : c.toNat < 0x80 := by
    rw [isAlpha_iff, isDigit_iff] at alphanum
    omega
  simp only [Text.isNameChar, Text.isAlphanumeric, Text.isLetter, Text.isNumeral, ascii, if_true,
    Bool.or_eq_true]
  exact .inl alphanum

theorem isNameChar_of_isDigit {radix : Nat} {c : Char} (digit : Numeral.isDigit radix c = true) :
    Text.isNameChar c = true := by
  have worth : (Numeral.digitWorth? c).isSome = true := by
    unfold Numeral.isDigit Numeral.digit? at digit
    cases found : Numeral.digitWorth? c with
    | none =>
        rw [found] at digit
        cases digit
    | some n => rfl
  apply isNameChar_of_isAlphanum
  rw [isAlphanum_iff, isAlpha_iff, isDigit_iff]
  unfold Numeral.digitWorth? at worth
  split at worth
  · rename_i isDigit
    exact .inr isDigit
  split at worth
  · rename_i isSmall
    exact .inl (.inr isSmall)
  split at worth
  · rename_i isLarge
    exact .inl (.inl isLarge)
  · cases worth

theorem isNameChar_of_isNameStart {c : Char} (start : Text.isNameStart c = true) :
    Text.isNameChar c = true := by
  simp only [Text.isNameStart, Bool.or_eq_true] at start
  simp only [Text.isNameChar, Text.isAlphanumeric, Bool.or_eq_true]
  rcases start with letter | underscore
  · exact .inl (.inl letter)
  · exact .inr underscore

theorem not_isNameStart_of_decimal {c : Char} (digit : c.isDigit = true) :
    Text.isNameStart c = false := by
  rw [isDigit_iff] at digit
  have ascii : c.toNat < 0x80 := by omega
  have noLetter : c.isAlpha = false := by
    rw [Bool.eq_false_iff, ne_eq, isAlpha_iff]
    omega
  have noUnderscore : (c == '_') = false := by
    rw [beq_eq_false_iff_ne]
    rintro rfl
    exact absurd digit (by decide)
  simp only [Text.isNameStart, Text.isLetter, ascii, if_true, noLetter, noUnderscore, Bool.or_self]

theorem isNameChar_of_decimal {c : Char} (digit : c.isDigit = true) :
    Text.isNameChar c = true :=
  isNameChar_of_isAlphanum (isAlphanum_iff.mpr (.inr digit))

/-- Whether a character ends every token in front of it that is not a constant between marks. -/
def endsToken (d : Char) : Bool :=
  !Text.isNameChar d && !(['.', ':', '=', '+', '-', '&', '|', '<', '>', '^'].contains d)

section Ending

variable {d : Char}

theorem not_isNameChar_of_endsToken (ends : endsToken d = true) : Text.isNameChar d = false := by
  simp only [endsToken, Bool.and_eq_true, Bool.not_eq_true'] at ends
  exact ends.1

theorem not_of_endsToken (ends : endsToken d = true) {test : Char → Bool}
    (continues : ∀ c, test c = true → Text.isNameChar c = true) : test d = false := by
  rw [Bool.eq_false_iff]
  intro passed
  have inside := continues d passed
  rw [not_isNameChar_of_endsToken ends] at inside
  cases inside

theorem not_isNameStart_of_endsToken (ends : endsToken d = true) : Text.isNameStart d = false :=
  not_of_endsToken ends fun _ => isNameChar_of_isNameStart

theorem not_isDigit_of_endsToken (ends : endsToken d = true) (radix : Nat) :
    Numeral.isDigit radix d = false :=
  not_of_endsToken ends fun _ => isNameChar_of_isDigit

theorem not_decimal_of_endsToken (ends : endsToken d = true) : d.isDigit = false :=
  not_of_endsToken ends fun _ => isNameChar_of_decimal

/-- A character of which `endsToken` is known to be false is another one. -/
theorem ne_of_endsToken (ends : endsToken d = true) {c : Char} (inside : endsToken c = false) :
    d ≠ c := by
  rintro rfl
  rw [ends] at inside
  cases inside

theorem startsWith_append {test : Char → Bool} (fails : test d = false) (cs more : List Char) :
    startsWith test (cs ++ d :: more) = startsWith test cs := by
  cases cs with
  | nil => exact fails
  | cons c cs => rfl

/-- A text that does not start with `c` does not start with it either if another character follows. -/
theorem append_ne_cons {c : Char} (other : d ≠ c) {cs more : List Char}
    (apart : ∀ rest, cs = c :: rest → False) (rest : List Char)
    (joined : cs ++ d :: more = c :: rest) : False := by
  cases cs with
  | nil =>
      injection joined with isFirst
      exact other isFirst
  | cons first cs =>
      injection joined with isFirst
      exact apart cs (by rw [isFirst])

end Ending

theorem drop_takeWhile (test : Char → Bool) (cs : List Char) :
    cs.drop (cs.takeWhile test).length = cs.dropWhile test :=
  calc cs.drop (cs.takeWhile test).length
      = (cs.takeWhile test ++ cs.dropWhile test).drop (cs.takeWhile test).length := by
        rw [List.takeWhile_append_dropWhile]
    _ = cs.dropWhile test := List.drop_left

/-! ### Names -/

/-- A name ends in front of a character that is no part of names, unless this joins two names. -/
theorem name_before {d : Char} (outside : Text.isNameChar d = false) (noColon : d ≠ ':')
    (cs more : List Char) : name (cs ++ d :: more) = ((name cs).1, (name cs).2 ++ d :: more) := by
  have noStart : Text.isNameStart d = false := by
    rw [Bool.eq_false_iff]
    intro start
    rw [isNameChar_of_isNameStart start] at outside
    cases outside
  -- a name that starts at `d` is empty
  have stop : name (d :: more) = ([], d :: more) := by
    rw [name]
    · rw [outside]
      rfl
    · intro c rest impossible _
      exact noColon impossible
  fun_induction name cs with
  | case1 => exact stop
  | case2 c rest start chars after found ih =>
      simp only [List.cons_append, name, start, if_true] at ih ⊢
      rw [ih, found]
  | case3 c rest start =>
      simp only [List.cons_append, name, start]
      rfl
  | case4 c rest noPair inside chars after found ih =>
      rw [List.cons_append, name]
      · rw [if_pos inside, ih, found]
      · rintro next tail rfl _
        exact absurd inside (by decide)
  | case5 c rest noPair noName =>
      by_cases pair : c = ':' ∧ rest = [':']
      · -- the pair of colons would have joined another name
        obtain ⟨rfl, rfl⟩ := pair
        simp only [List.cons_append, List.nil_append, name, noStart]
        rfl
      · rw [List.cons_append, name]
        · rw [if_neg noName]
        · rintro next tail rfl joined
          cases rest with
          | nil =>
              injection joined with isColon
              exact noColon isColon
          | cons second rest =>
              injection joined with isColon joined
              cases rest with
              | nil => exact pair ⟨rfl, by rw [isColon]⟩
              | cons third rest => exact noPair third rest rfl (by rw [isColon])

theorem name_append {d : Char} (ends : endsToken d = true) (cs more : List Char) :
    name (cs ++ d :: more) = ((name cs).1, (name cs).2 ++ d :: more) :=
  name_before (not_isNameChar_of_endsToken ends) (ne_of_endsToken ends (by decide)) cs more

theorem name_length_le (cs : List Char) : (name cs).2.length ≤ cs.length := by
  fun_induction name cs with
  | case1 => exact Nat.le_refl _
  | case2 c rest start chars after found ih =>
      rw [found] at ih
      simp only [List.length_cons] at ih ⊢
      omega
  | case3 => exact Nat.le_refl _
  | case4 c rest noPair inside chars after found ih =>
      rw [found] at ih
      simp only [List.length_cons] at ih ⊢
      omega
  | case5 => exact Nat.le_refl _

theorem name_length_lt {c : Char} (inside : Text.isNameChar c = true) (cs : List Char) :
    (name (c :: cs)).2.length < (c :: cs).length := by
  have bound := name_length_le cs
  rw [name]
  · rw [if_pos inside]
    simp only [List.length_cons]
    omega
  · rintro next tail rfl _
    exact absurd inside (by decide)

theorem wordIsNumber_append {d : Char} (ends : endsToken d = true) (radix : Nat)
    (cs more : List Char) : wordIsNumber radix (cs ++ d :: more) = wordIsNumber radix cs := by
  have outside := not_isNameChar_of_endsToken ends
  have colon := ne_of_endsToken ends (by decide : endsToken ':' = false)
  have word : (cs ++ d :: more).takeWhile Text.isNameChar = cs.takeWhile Text.isNameChar := by
    induction cs with
    | nil => simp only [List.nil_append, List.takeWhile_cons, outside]; rfl
    | cons c cs ih =>
        simp only [List.cons_append, List.takeWhile_cons, ih]
  have rest : (cs ++ d :: more).dropWhile Text.isNameChar =
      cs.dropWhile Text.isNameChar ++ d :: more := by
    induction cs with
    | nil => simp only [List.nil_append, List.dropWhile_cons, outside]; rfl
    | cons c cs ih =>
        simp only [List.cons_append, List.dropWhile_cons] at word ⊢
        split
        · apply ih
          simp_all
        · rfl
  have pair : ((cs.dropWhile Text.isNameChar ++ d :: more).take 2 == [':', ':']) =
      ((cs.dropWhile Text.isNameChar).take 2 == [':', ':']) := by
    rcases cs.dropWhile Text.isNameChar with _ | ⟨a, _ | ⟨b, tail⟩⟩
    · simp [colon]
    · simp [colon]
    · rfl
  simp only [wordIsNumber, word, rest, pair]

/-! ### Numerals -/

theorem digits_append {d : Char} (ends : endsToken d = true) (radix : Nat)
    {separator : Option Char} {more : List Char} (cut : separator = none ∨ more = [])
    (started : Bool) (cs : List Char) :
    digits radix separator started (cs ++ d :: more) =
      ((digits radix separator started cs).1, (digits radix separator started cs).2 ++ d :: more) := by
  have noDigit := not_isDigit_of_endsToken ends radix
  induction cs generalizing started with
  | nil =>
      -- the cut itself divides nothing, since no digit follows it
      rcases cut with rfl | rfl <;> simp [digits, noDigit, startsWith]
  | cons c cs ih =>
      simp only [List.cons_append, digits, startsWith_append noDigit]
      split
      · rw [ih]
      · split
        · rw [ih]
        · simp

theorem digits_length_le (radix : Nat) (separator : Option Char) (started : Bool)
    (cs : List Char) : (digits radix separator started cs).2.length ≤ cs.length := by
  induction cs generalizing started with
  | nil => exact Nat.le_refl _
  | cons c cs ih =>
      have bound := ih true
      simp only [digits]
      split
      · simp only [List.length_cons]
        omega
      · split
        · simp only [List.length_cons]
          omega
        · exact Nat.le_refl _

section Numerals

variable {d : Char} {rules : Rules} {start rest cs : List Char} {token : Token}

theorem fraction?_append (ends : endsToken d = true) (cs more : List Char) :
    fraction? (cs ++ d :: more) =
      (fraction? cs).map fun (places, rest) => (places, rest ++ d :: more) := by
  fun_cases fraction? cs with
  | case1 rest named =>
      rw [List.cons_append, fraction?,
        startsWith_append (by rw [not_isNameStart_of_endsToken ends]; rfl), if_pos named]
      rfl
  | case2 rest named =>
      rw [List.cons_append, fraction?,
        startsWith_append (by rw [not_isNameStart_of_endsToken ends]; rfl), if_neg named,
        digits_append ends 10 (.inl rfl)]
      rfl
  | case3 _ noPoint =>
      rw [fraction?]
      · rfl
      · exact append_ne_cons (ne_of_endsToken ends (by decide)) noPoint

theorem exponentSign_append (ends : endsToken d = true) (cs more : List Char) :
    exponentSign (cs ++ d :: more) = ((exponentSign cs).1, (exponentSign cs).2 ++ d :: more) := by
  fun_cases exponentSign cs with
  | case1 rest => rfl
  | case2 rest => rfl
  | case3 _ noPlus noMinus =>
      rw [exponentSign]
      · exact append_ne_cons (ne_of_endsToken ends (by decide)) noPlus
      · exact append_ne_cons (ne_of_endsToken ends (by decide)) noMinus

theorem exponentSign_length_le (cs : List Char) : (exponentSign cs).2.length ≤ cs.length := by
  unfold exponentSign
  split
  · exact Nat.le_succ _
  · exact Nat.le_succ _
  · exact Nat.le_refl _

theorem exponent?_append (ends : endsToken d = true) (cs more : List Char) :
    exponent? (cs ++ d :: more) =
      (exponent? cs).map fun (given, exponent, rest) => (given, exponent, rest ++ d :: more) := by
  have other {c : Char} (inside : endsToken c = false) := ne_of_endsToken ends inside
  cases cs with
  | nil =>
      simp only [List.nil_append, exponent?]
      rw [if_neg]
      · rfl
      · rintro (small | large)
        · exact other (by decide) small
        · exact other (by decide) large
  | cons c cs =>
      simp only [List.cons_append, exponent?]
      by_cases letter : c = 'e' ∨ c = 'E'
      · rw [if_pos letter, if_pos letter, exponentSign_append ends,
          digits_append ends 10 (.inl rfl)]
        rfl
      · rw [if_neg letter, if_neg letter]
        rfl

theorem integer_append {radix : Nat} {ds tail : List Char}
    (read : integer radix ds tail = .ok (token, rest)) (more : List Char) :
    integer radix ds (tail ++ more) = .ok (token, rest ++ more) := by
  unfold integer at read ⊢
  split at read
  · cases read
    rfl
  · cases read

theorem rest_of_integer {radix : Nat} {ds tail : List Char}
    (read : integer radix ds tail = .ok (token, rest)) : rest = tail := by
  unfold integer at read
  split at read
  · cases read
    rfl
  · cases read

theorem behindPlaces_append (ends : endsToken d = true) {whole places tail : List Char}
    {isReal : Bool} (read : behindPlaces start whole places isReal tail = .ok (token, rest))
    (more : List Char) :
    behindPlaces (start ++ d :: more) whole places isReal (tail ++ d :: more) =
      .ok (token, rest ++ d :: more) := by
  have outside := not_isNameChar_of_endsToken ends
  unfold behindPlaces at read ⊢
  rw [exponent?_append ends]
  cases found : exponent? tail with
  | none =>
      rw [found] at read
      simp only [Option.map_none, startsWith_append outside] at read ⊢
      split at read
      · cases read
      rename_i alone
      rw [if_neg alone]
      split at read
      · rename_i real
        rw [if_pos real]
        cases read
        rfl
      · rename_i whole
        rw [if_neg whole]
        exact integer_append read _
  | some found' =>
      obtain ⟨given, exponent, tail⟩ := found'
      rw [found] at read
      cases given with
      | false => cases read
      | true =>
          simp only [Option.map_some, startsWith_append outside] at read ⊢
          split at read
          · cases read
          · rename_i alone
            rw [if_neg alone]
            cases read
            rfl

theorem decimal_append (ends : endsToken d = true) {more : List Char}
    (cut : rules.separator = none ∨ more = []) (read : decimal rules start = .ok (token, rest)) :
    decimal rules (start ++ d :: more) = .ok (token, rest ++ d :: more) := by
  unfold decimal at read ⊢
  rw [digits_append ends 10 cut]
  simp only [fraction?_append ends] at read ⊢
  cases found : fraction? (digits 10 rules.separator false start).2 with
  | none =>
      rw [found] at read
      exact behindPlaces_append ends read more
  | some places =>
      rw [found] at read
      exact behindPlaces_append ends read more

theorem inRadix_append (ends : endsToken d = true) {more : List Char}
    (cut : rules.separator = none ∨ more = []) (read : inRadix rules start = .ok (token, rest)) :
    inRadix rules (start ++ d :: more) = .ok (token, rest ++ d :: more) := by
  have blank : (rules.separator.map fun _ => ' ') = none ∨ more = [] :=
    cut.imp_left fun plain => by rw [plain, Option.map_none]
  have outside := not_isNameChar_of_endsToken ends
  have point : (d == '.') = false := beq_false_of_ne (ne_of_endsToken ends (by decide))
  unfold inRadix at read ⊢
  simp only [digits_append ends _ blank, startsWith_append outside,
    startsWith_append (not_decimal_of_endsToken ends),
    @startsWith_append d (· == '.') point] at read ⊢
  split at read
  · rename_i tail
    rw [if_pos tail]
    split at read
    · cases read
    · rename_i notWhole
      rw [decimal_append ends cut read]
      split
      · rename_i impossible
        cases impossible
        exact absurd read (notWhole _ _)
      · rfl
  · rename_i tail
    rw [if_neg tail]
    split at read
    · cases read
    · rename_i alone
      rw [if_neg alone]
      exact integer_append read _

theorem marked_append (ends : endsToken d = true) {radix : Nat} {tail : List Char}
    (read : marked radix start tail = .ok (token, rest)) (more : List Char) :
    marked radix (start ++ d :: more) (tail ++ d :: more) = .ok (token, rest ++ d :: more) := by
  unfold marked at read ⊢
  rw [digits_append ends radix (.inl rfl)]
  simp only [startsWith_append (not_isNameChar_of_endsToken ends)] at read ⊢
  split at read
  · cases read
  · rename_i alone
    rw [if_neg alone]
    split at read
    · cases read
      rfl
    · split at read <;> cases read

theorem unmarked_append (ends : endsToken d = true) {more : List Char}
    (cut : rules.separator = none ∨ more = []) (read : unmarked rules start = .ok (token, rest)) :
    unmarked rules (start ++ d :: more) = .ok (token, rest ++ d :: more) := by
  unfold unmarked at read ⊢
  split at read
  · rename_i ten
    rw [if_pos ten]
    exact decimal_append ends cut read
  · rename_i ten
    rw [if_neg ten]
    exact inRadix_append ends cut read

theorem markRadix?_of_endsToken (ends : endsToken d = true) (radix : Nat) :
    markRadix? radix d = none := by
  have other {c : Char} (inside : endsToken c = false) := ne_of_endsToken ends inside
  simp [markRadix?, @other 'x' (by decide), @other 'X' (by decide), @other 'b' (by decide),
    @other 'B' (by decide), @other 'o' (by decide), @other 'O' (by decide)]

theorem number_append (ends : endsToken d = true) {more : List Char}
    (cut : rules.separator = none ∨ more = []) (read : number rules start = .ok (token, rest)) :
    number rules (start ++ d :: more) = .ok (token, rest ++ d :: more) := by
  unfold number at read
  split at read
  · rename_i mark tail
    simp only [List.cons_append, number]
    split at read
    · rename_i radix found
      rw [startsWith_append (not_isDigit_of_endsToken ends _)]
      split at read
      · rename_i digit
        rw [if_pos digit]
        exact marked_append ends read more
      · rename_i digit
        rw [if_neg digit]
        split at read
        · cases read
        · rename_i hex
          rw [if_neg hex]
          exact unmarked_append ends cut read
    · exact unmarked_append ends cut read
  · rename_i single
    have extended := unmarked_append ends cut read
    -- a lone zero is the only text that gets a second character here
    by_cases zero : start = ['0']
    · subst zero
      simp only [List.cons_append, List.nil_append, number, markRadix?_of_endsToken ends]
      exact extended
    · rw [number]
      · exact extended
      · intro mark tail joined
        cases start with
        | nil =>
            injection joined with isZero
            exact ne_of_endsToken ends (by decide) isZero
        | cons first start =>
            injection joined with isZero joined
            cases start with
            | nil => exact zero (by rw [isZero])
            | cons second start => exact single second start (by rw [isZero])

/-! ### Numerals take a character -/

def StartsNumber (cs : List Char) : Prop :=
  startsWith Text.isNameChar cs = true ∨ ∃ rest, cs = '.' :: rest ∧ startsWith Char.isDigit rest = true

theorem digits_all_or_shorter (radix : Nat) (separator : Option Char) (cs : List Char) :
    (digits radix separator false cs).2 = cs ∨
      (digits radix separator false cs).2.length < cs.length := by
  cases cs with
  | nil => exact .inl rfl
  | cons c cs =>
      have bound := digits_length_le radix separator true cs
      simp only [digits, Bool.false_and]
      split
      · refine .inr ?_
        simp only [List.length_cons]
        omega
      · exact .inl rfl

theorem fraction?_length_lt {places : List Char} (found : fraction? cs = some (places, rest)) :
    rest.length < cs.length := by
  unfold fraction? at found
  split at found
  · rename_i tail
    have bound := digits_length_le 10 none false tail
    split at found
    · cases found
    · injection found with found
      rw [found] at bound
      exact Nat.lt_succ_of_le bound
  · cases found

theorem exponent?_length_lt {given : Bool} {exponent : Int}
    (found : exponent? cs = some (given, exponent, rest)) : rest.length < cs.length := by
  unfold exponent? at found
  split at found
  · rename_i c tail
    have signBound := exponentSign_length_le tail
    have bound := digits_length_le 10 none false (exponentSign tail).2
    split at found
    · simp only [Option.some.injEq, Prod.mk.injEq] at found
      rw [← found.2.2, List.length_cons]
      omega
    · cases found
  · cases found

theorem behindPlaces_length {whole places tail : List Char} {isReal : Bool}
    (read : behindPlaces start whole places isReal tail = .ok (token, rest)) :
    (rest = tail ∧ startsWith Text.isNameChar tail = false) ∨ rest.length < tail.length := by
  unfold behindPlaces at read
  split at read
  · cases read
  · rename_i found
    split at read
    · cases read
    · cases read
      exact .inr (exponent?_length_lt found)
  · split at read
    · cases read
    · rename_i alone
      refine .inl ⟨?_, Bool.eq_false_iff.2 alone⟩
      split at read
      · cases read
        rfl
      · exact rest_of_integer read

theorem decimal_length_lt (starts : StartsNumber start)
    (read : decimal rules start = .ok (token, rest)) : rest.length < start.length := by
  have bound := digits_length_le 10 rules.separator false start
  unfold decimal at read
  simp only at read
  split at read
  · rename_i places tail found
    have shorter := fraction?_length_lt found
    rcases behindPlaces_length read with ⟨rfl, _⟩ | shorter' <;> omega
  · rename_i found
    rcases behindPlaces_length read with ⟨same, alone⟩ | shorter
    · rcases digits_all_or_shorter 10 rules.separator start with all | shorter
      · -- nothing was taken, although the text starts like a numeral
        rw [all] at found alone
        rcases starts with inside | ⟨tail, rfl, digit⟩
        · rw [inside] at alone
          cases alone
        · rw [fraction?, if_neg] at found
          · cases found
          · cases tail with
            | nil => cases digit
            | cons c tail =>
                have noName : Text.isNameStart c = false := not_isNameStart_of_decimal digit
                simp only [startsWith, List.head?_cons, Option.any_some, noName]
                exact Bool.false_ne_true
      · rw [same]
        exact shorter
    · omega

theorem inRadix_length_lt (starts : StartsNumber start)
    (read : inRadix rules start = .ok (token, rest)) : rest.length < start.length := by
  have bound := digits_all_or_shorter rules.radix (rules.separator.map fun _ => ' ') start
  unfold inRadix at read
  simp only at read
  split at read
  · split at read
    · cases read
    · exact decimal_length_lt starts read
  · rename_i noTail
    split at read
    · cases read
    · rename_i alone
      have same := rest_of_integer read
      rcases bound with all | shorter
      · rw [all] at noTail alone
        rcases starts with inside | ⟨tail, rfl, digit⟩
        · exact absurd inside alone
        · -- a point behind no digits leads to a decimal numeral
          have noDigit : Numeral.isDigit rules.radix '.' = false := rfl
          simp only [digits, noDigit, Bool.false_and] at noTail
          exact absurd (Bool.or_true _) noTail
      · rw [same]
        exact shorter

theorem number_length_lt (starts : StartsNumber start)
    (read : number rules start = .ok (token, rest)) : rest.length < start.length := by
  have unmarked (read : unmarked rules start = .ok (token, rest)) : rest.length < start.length := by
    unfold Scan.unmarked at read
    split at read
    · exact decimal_length_lt starts read
    · exact inRadix_length_lt starts read
  unfold number at read
  split at read
  · rename_i mark tail
    split at read
    · rename_i radix found
      split at read
      · have bound := digits_length_le radix none false tail
        unfold marked at read
        simp only at read
        split at read
        · cases read
        · split at read
          · cases read
            simp only [List.length_cons]
            omega
          · split at read <;> cases read
      · split at read
        · cases read
        · exact unmarked read
    · exact unmarked read
  · exact unmarked read

/-! ### Numerals are numbers -/

def IsNumber (token : Token) : Prop :=
  (∃ n, token = .int n) ∨ ∃ x, token = .real x

theorem isNumber_integer {radix : Nat} {ds tail : List Char}
    (read : integer radix ds tail = .ok (token, rest)) : IsNumber token := by
  unfold integer at read
  split at read
  · cases read
    exact .inl ⟨_, rfl⟩
  · cases read

theorem isNumber_decimal (read : decimal rules start = .ok (token, rest)) : IsNumber token := by
  have behind {whole places tail : List Char} {isReal : Bool}
      (read : behindPlaces start whole places isReal tail = .ok (token, rest)) :
      IsNumber token := by
    unfold behindPlaces at read
    split at read
    · cases read
    · split at read <;> cases read
      exact .inr ⟨_, rfl⟩
    · split at read
      · cases read
      · split at read
        · cases read
          exact .inr ⟨_, rfl⟩
        · exact isNumber_integer read
  unfold decimal at read
  simp only at read
  split at read
  · exact behind read
  · exact behind read

theorem isNumber_number (read : number rules start = .ok (token, rest)) : IsNumber token := by
  have unmarked (read : unmarked rules start = .ok (token, rest)) : IsNumber token := by
    unfold Scan.unmarked inRadix at read
    simp only at read
    split at read
    · exact isNumber_decimal read
    split at read
    · split at read
      · cases read
      · exact isNumber_decimal read
    · split at read
      · cases read
      · exact isNumber_integer read
  unfold number at read
  split at read
  · split at read
    · split at read
      · unfold marked at read
        simp only at read
        split at read
        · cases read
        · split at read
          · cases read
            exact .inl ⟨_, rfl⟩
          · split at read <;> cases read
      · split at read
        · cases read
        · exact unmarked read
    · exact unmarked read
  · exact unmarked read

end Numerals

/-! ### Character and string constants -/

section Constants

variable {cs chars rest : List Char} {token : Token}

/-- A character that is neither a mark nor the start of an escape stands for itself. -/
theorem stringTail_plain {c : Char} (noMark : c ≠ '"') (noEscape : c ≠ '\\') (cs : List Char) :
    stringTail (c :: cs) = (stringTail cs).map fun (chars, rest) => (c :: chars, rest) := by
  rw [stringTail]
  · exact noMark
  · exact fun _ _ _ isEscape _ => noEscape isEscape
  · exact fun _ isEscape _ => noEscape isEscape
  · exact fun _ _ isEscape _ => noEscape isEscape
  · exact fun isEscape _ => noEscape isEscape

/-- In front of a closing mark `\x` stands for nothing. -/
theorem stringTail_emptyEscape (more : List Char) :
    stringTail ('\\' :: 'x' :: '"' :: more) = some ([], more) := by
  cases more with
  | nil => rfl
  | cons c more => rfl

theorem stringTail_append (read : stringTail cs = some (chars, rest)) (more : List Char) :
    stringTail (cs ++ more) = some (chars, rest ++ more) := by
  -- the cases are those of what stands behind a backslash
  fun_induction stringTail cs generalizing chars rest with
  | case1 => cases read
  | case2 tail =>
      cases read
      rfl
  | case3 a b tail high low isLow isHigh ih =>
      obtain ⟨⟨inner, after⟩, found, joined⟩ := Option.map_eq_some_iff.1 read
      cases joined
      simp only [List.cons_append, stringTail, isHigh, isLow, ih found]
      rfl
  | case4 a b tail low noLow isHigh ih =>
      obtain ⟨⟨inner, after⟩, found, joined⟩ := Option.map_eq_some_iff.1 read
      cases joined
      have ih := ih found
      rw [List.cons_append] at ih
      simp only [List.cons_append, stringTail, isHigh, noLow, ih]
      rfl
  | case5 a b tail noHigh ih =>
      have ih := ih read
      simp only [List.cons_append] at ih
      simp only [List.cons_append, stringTail, noHigh, ih]
  | case6 tail short ih =>
      -- at most one character follows, so it must be the closing mark
      rcases tail with _ | ⟨a, _ | ⟨b, tail⟩⟩
      · cases read
      · by_cases isMark : a = '"'
        · subst isMark
          cases read
          exact stringTail_emptyEscape more
        · by_cases isEscape : a = '\\'
          · subst isEscape
            cases read
          · rw [stringTail_plain isMark isEscape] at read
            cases read
      · exact absurd rfl (short a b tail)
  | case7 c tail notHex notX ih =>
      obtain ⟨⟨inner, after⟩, found, joined⟩ := Option.map_eq_some_iff.1 read
      cases joined
      rw [List.cons_append, List.cons_append, stringTail, ih found]
      · rfl
      · exact fun _ _ _ isX _ => notX isX
      · exact notX
  | case8 => cases read
  | case9 c tail noMark _ _ noPair noSingle ih =>
      have noEscape : c ≠ '\\' := by
        intro isEscape
        cases tail with
        | nil => exact noSingle isEscape rfl
        | cons d tail => exact noPair d tail isEscape rfl
      obtain ⟨⟨inner, after⟩, found, joined⟩ := Option.map_eq_some_iff.1 read
      cases joined
      rw [List.cons_append, stringTail_plain noMark noEscape, ih found]
      rfl

theorem stringTail_length_le (read : stringTail cs = some (chars, rest)) :
    rest.length ≤ cs.length := by
  fun_induction stringTail cs generalizing chars rest with
  | case1 | case8 => cases read
  | case2 tail =>
      cases read
      exact Nat.le_succ _
  | case5 a b tail noHigh ih =>
      have bound := ih read
      simp only [List.length_cons] at bound ⊢
      omega
  | case6 tail short ih =>
      have bound := ih read
      simp only [List.length_cons]
      omega
  | case3 _ _ _ _ _ _ _ ih | case4 _ _ _ _ _ _ ih | case7 _ _ _ _ ih | case9 _ _ _ _ _ _ _ ih =>
      obtain ⟨⟨inner, after⟩, found, joined⟩ := Option.map_eq_some_iff.1 read
      cases joined
      have bound := ih found
      simp only [List.length_cons] at bound ⊢
      omega

theorem string_append (read : string cs = .ok (token, rest)) (more : List Char) :
    string (cs ++ more) = .ok (token, rest ++ more) := by
  unfold string at read ⊢
  split at read
  · rename_i found
    cases read
    rw [stringTail_append found]
  · cases read

theorem string_length_le (read : string cs = .ok (token, rest)) : rest.length ≤ cs.length := by
  unfold string at read
  split at read
  · rename_i found
    cases read
    exact stringTail_length_le found
  · cases read

theorem closeCharacter_append {c : Char} (read : closeCharacter c cs = .ok (token, rest))
    (more : List Char) : closeCharacter c (cs ++ more) = .ok (token, rest ++ more) := by
  unfold closeCharacter at read
  split at read
  · rename_i mark tail
    simp only [List.cons_append, closeCharacter]
    split at read
    · rename_i isMark
      rw [if_pos isMark]
      cases read
      rfl
    · cases read
  · cases read

theorem closeCharacter_length_lt {c : Char} (read : closeCharacter c cs = .ok (token, rest)) :
    rest.length < cs.length := by
  unfold closeCharacter at read
  split at read
  · split at read
    · cases read
      exact Nat.lt_succ_self _
    · cases read
  · cases read

theorem codeDigits_append {tail : List Char} {c : Char}
    (some : ((tail.take 2).takeWhile (Numeral.isDigit 16)).isEmpty ≠ true)
    (read : closeCharacter c (tail.drop ((tail.take 2).takeWhile (Numeral.isDigit 16)).length) =
      .ok (token, rest)) (more : List Char) :
    (tail ++ more).take 2 = tail.take 2 ∧
      ((tail.take 2).takeWhile (Numeral.isDigit 16)).length ≤ tail.length := by
  rcases tail with _ | ⟨a, _ | ⟨b, tail⟩⟩
  · exact absurd rfl some
  · -- a single digit leaves no room for the closing mark
    by_cases digit : Numeral.isDigit 16 a = true
    · simp only [List.take_succ_cons, List.take_nil, List.takeWhile_cons, digit, if_true,
        List.takeWhile_nil, List.length_cons, List.length_nil] at read
      cases read
    · simp only [List.take_succ_cons, List.take_nil, List.takeWhile_cons, digit] at some
      exact absurd rfl some
  · refine ⟨rfl, ?_⟩
    have bound := List.Sublist.length_le
      (@List.takeWhile_sublist _ ((a :: b :: tail).take 2) (Numeral.isDigit 16))
    simp only [List.take_succ_cons, List.take_zero, List.length_cons, List.length_nil] at bound ⊢
    omega

theorem character_append (read : character cs = .ok (token, rest)) (more : List Char) :
    character (cs ++ more) = .ok (token, rest ++ more) := by
  unfold character at read
  split at read
  · cases read
  · cases read
  · rename_i tail
    simp only at read
    split at read
    · cases read
    · rename_i some
      obtain ⟨same, fits⟩ := codeDigits_append some read more
      simp only [List.cons_append, character, same]
      rw [if_neg some, List.drop_append_of_le_length fits]
      exact closeCharacter_append read more
  · rename_i c tail notX
    split at read
    · rename_i escape
      rw [List.cons_append, List.cons_append, character]
      · rw [escape]
        exact closeCharacter_append read more
      · exact notX
    · cases read
  · rename_i c tail notSingle notX notEscape
    have noEscape : c ≠ '\\' := by
      intro isEscape
      cases tail with
      | nil => exact notSingle isEscape rfl
      | cons d tail => exact notEscape d tail isEscape rfl
    rw [List.cons_append, character]
    · exact closeCharacter_append read more
    · exact fun isEscape _ => noEscape isEscape
    · exact fun _ isEscape _ => noEscape isEscape
    · exact fun _ _ isEscape _ => noEscape isEscape

/-- However its character is written, a character constant ends with its closing mark. -/
theorem closed_of_character (read : character cs = .ok (token, rest)) :
    ∃ c behind, closeCharacter c behind = .ok (token, rest) ∧ behind.length ≤ cs.length := by
  unfold character at read
  split at read
  · cases read
  · cases read
  · rename_i tail
    simp only at read
    split at read
    · cases read
    · refine ⟨_, _, read, ?_⟩
      simp only [List.length_drop, List.length_cons]
      omega
  · rename_i c tail _
    split at read
    · exact ⟨_, tail, read, Nat.le_add_right tail.length 2⟩
    · cases read
  · rename_i c tail _ _ _
    exact ⟨c, tail, read, Nat.le_succ tail.length⟩

theorem character_length_le (read : character cs = .ok (token, rest)) :
    rest.length ≤ cs.length := by
  obtain ⟨c, behind, closed, inside⟩ := closed_of_character read
  exact Nat.le_trans (Nat.le_of_lt (closeCharacter_length_lt closed)) inside

theorem token_of_character (read : character cs = .ok (token, rest)) : ∃ n, token = .int n := by
  obtain ⟨c, behind, closed, _⟩ := closed_of_character read
  unfold closeCharacter at closed
  split at closed
  · split at closed <;> cases closed
    exact ⟨_, rfl⟩
  · cases closed

end Constants

/-! ### Marks -/

/-- A scanner for what follows the first character of a token: it takes nothing back, and nothing
changes if a character that ends tokens follows. -/
structure Cuts (d : Char) (scanner : List Char → Result) : Prop where
  append : ∀ {cs token rest}, scanner cs = .ok (token, rest) → ∀ more,
    scanner (cs ++ d :: more) = .ok (token, rest ++ d :: more)
  length_le : ∀ {cs token rest}, scanner cs = .ok (token, rest) → rest.length ≤ cs.length
  more : ∀ {cs token rest}, scanner cs = .ok (token, rest) → token ≠ .finish

section Marks

variable {d : Char}

theorem cuts_string : Cuts d string where
  append read more := string_append read (d :: more)
  length_le := string_length_le
  more read := by
    unfold string at read
    split at read <;> cases read
    exact Token.noConfusion

theorem cuts_character : Cuts d character where
  append read more := character_append read (d :: more)
  length_le := character_length_le
  more read := by
    obtain ⟨n, rfl⟩ := token_of_character read
    exact Token.noConfusion

theorem cuts_error (fault : LexicalFault) : Cuts d (fun _ => .error fault) where
  append read := by cases read
  length_le read := by cases read
  more read := by cases read

theorem cuts_alone {token : Token} (more : token ≠ .finish) : Cuts d (alone token) where
  more read := by
    cases read
    exact more
  append read more := by
    cases read
    rfl
  length_le read := by
    cases read
    exact Nat.le_refl _

theorem cuts_ifNext {c : Char} (other : d ≠ c) {behind otherwise : List Char → Result}
    (cutsBehind : Cuts d behind) (cutsOtherwise : Cuts d otherwise) :
    Cuts d (ifNext c behind otherwise) := by
  constructor
  · intro cs token rest read more
    cases cs with
    | nil =>
        rw [List.nil_append, ifNext, if_neg other]
        exact cutsOtherwise.append read more
    | cons first cs =>
        simp only [List.cons_append, ifNext] at read ⊢
        split at read
        · rename_i isNext
          rw [if_pos isNext]
          exact cutsBehind.append read more
        · rename_i isNext
          rw [if_neg isNext]
          exact cutsOtherwise.append read more
  · intro cs token rest read
    cases cs with
    | nil => exact cutsOtherwise.length_le read
    | cons first cs =>
        rw [ifNext] at read
        split at read
        · exact Nat.le_succ_of_le (cutsBehind.length_le read)
        · exact cutsOtherwise.length_le read
  · intro cs token rest read
    cases cs with
    | nil => exact cutsOtherwise.more read
    | cons first cs =>
        rw [ifNext] at read
        split at read
        · exact cutsBehind.more read
        · exact cutsOtherwise.more read

theorem cuts_orEqual (ends : endsToken d = true) {plain withEqual : Token}
    (more : plain ≠ .finish) (more' : withEqual ≠ .finish) : Cuts d (orEqual plain withEqual) :=
  cuts_ifNext (ne_of_endsToken ends (by decide)) (cuts_alone more') (cuts_alone more)

theorem cuts_notBefore (ends : endsToken d = true) (first : Char) {forbidden : List Char}
    (special : forbidden.any endsToken = false) (op : Arith) :
    Cuts d (notBefore first forbidden op) := by
  constructor
  · intro cs token rest read more
    cases cs with
    | nil =>
        rw [List.nil_append, notBefore, if_neg]
        · cases read
          rfl
        · rw [List.contains_iff_mem]
          intro member
          exact List.any_eq_false.mp special d member ends
    | cons c cs =>
        simp only [List.cons_append, notBefore] at read ⊢
        split at read
        · cases read
        · rename_i allowed
          rw [if_neg allowed]
          cases read
          rfl
  · intro cs token rest read
    unfold notBefore at read
    split at read
    · split at read <;> cases read
      exact Nat.le_refl _
    · cases read
      exact Nat.le_refl _
  · intro cs token rest read
    unfold notBefore at read
    split at read
    · split at read <;> cases read
      exact Token.noConfusion
    · cases read
      exact Token.noConfusion

theorem cuts_quotedName (ends : endsToken d = true) : Cuts d quotedName := by
  constructor
  · intro cs token rest read more
    unfold quotedName at read ⊢
    rw [startsWith_append (not_isNameChar_of_endsToken ends)]
    split at read
    · rename_i named
      cases read
      rw [if_pos named, name_append ends]
    · cases read
  · intro cs token rest read
    unfold quotedName at read
    split at read
    · cases read
      exact name_length_le cs
    · cases read
  · intro cs token rest read
    unfold quotedName at read
    split at read <;> cases read
    exact Token.noConfusion

theorem cuts_mark (ends : endsToken d = true) (c : Char) : Cuts d (mark c) := by
  have orEqual {plain withEqual : Token} (more : plain ≠ .finish) (more' : withEqual ≠ .finish) :
      Cuts d (orEqual plain withEqual) := cuts_orEqual ends more more'
  have arithmetic (op : Arith) : Cuts d (arithmetic op) := orEqual Token.noConfusion Token.noConfusion
  have ifNext {c : Char} (special : endsToken c = false) {behind otherwise : List Char → Result}
      (cutsBehind : Cuts d behind) (cutsOtherwise : Cuts d otherwise) :
      Cuts d (ifNext c behind otherwise) :=
    cuts_ifNext (ne_of_endsToken ends special) cutsBehind cutsOtherwise
  unfold mark
  split
  · exact cuts_string
  · exact cuts_quotedName ends
  · exact ifNext (by decide) (cuts_alone Token.noConfusion) (arithmetic _)
  · exact ifNext (by decide) (cuts_alone Token.noConfusion) (arithmetic _)
  · exact arithmetic _
  · exact arithmetic _
  · exact arithmetic _
  · exact ifNext (by decide) (cuts_alone Token.noConfusion)
      (ifNext (by decide) (cuts_alone Token.noConfusion) (cuts_notBefore ends _ (by decide) _))
  · exact ifNext (by decide) (cuts_alone Token.noConfusion)
      (ifNext (by decide) (cuts_alone Token.noConfusion) (cuts_notBefore ends _ (by decide) _))
  · exact ifNext (by decide) (cuts_alone Token.noConfusion) (cuts_notBefore ends _ (by decide) _)
  · exact ifNext (by decide) (arithmetic _) (orEqual Token.noConfusion Token.noConfusion)
  · exact ifNext (by decide) (arithmetic _) (orEqual Token.noConfusion Token.noConfusion)
  · exact orEqual Token.noConfusion Token.noConfusion
  · exact orEqual Token.noConfusion Token.noConfusion
  iterate 9 exact cuts_alone Token.noConfusion
  · split
    · exact cuts_character
    · exact cuts_error _

end Marks

/-! ### Tokens -/

section Tokens

variable {d c : Char} {rules : Rules} {afterOperand : Bool} {cs rest : List Char} {token : Token}

/-- A token is cut at a character that ends tokens, unless digits could be divided there. -/
theorem tokenFrom_append (ends : endsToken d = true) {more : List Char}
    (cut : rules.separator = none ∨ more = [])
    (read : tokenFrom rules afterOperand c cs = .ok (token, rest)) :
    tokenFrom rules afterOperand c (cs ++ d :: more) = .ok (token, rest ++ d :: more) := by
  unfold tokenFrom at read ⊢
  rw [startsWith_append (not_decimal_of_endsToken ends), ← List.cons_append,
    wordIsNumber_append ends]
  split at read
  · rename_i number
    rw [if_pos number]
    exact number_append ends cut read
  rename_i number
  rw [if_neg number]
  split at read
  · rename_i named
    rw [if_pos named]
    split at read
    · rename_i digits
      rw [if_pos digits]
      exact number_append ends cut read
    · rename_i digits
      rw [if_neg digits, name_append ends]
      cases read
      rfl
  · rename_i named
    rw [if_neg named]
    exact (cuts_mark ends c).append read more

theorem tokenFrom_length_lt (read : tokenFrom rules afterOperand c cs = .ok (token, rest)) :
    rest.length < (c :: cs).length := by
  unfold tokenFrom at read
  split at read
  · rename_i number
    apply number_length_lt ?_ read
    simp only [Bool.or_eq_true, Bool.and_eq_true] at number
    rcases number with digit | ⟨⟨point, _⟩, digit⟩
    · exact .inl (isNameChar_of_decimal digit)
    · exact .inr ⟨cs, by rw [eq_of_beq point], digit⟩
  split at read
  · rename_i named
    have inside := isNameChar_of_isNameStart named
    split at read
    · exact number_length_lt (.inl inside) read
    · cases read
      exact name_length_lt inside cs
  · have bound := (@cuts_mark ' ' (by decide) c).length_le read
    exact Nat.lt_succ_of_le bound

theorem tokenFrom_ne_finish (read : tokenFrom rules afterOperand c cs = .ok (token, rest)) :
    token ≠ .finish := by
  have number (read : number rules (c :: cs) = .ok (token, rest)) : token ≠ .finish := by
    rcases isNumber_number read with ⟨n, rfl⟩ | ⟨x, rfl⟩ <;> exact Token.noConfusion
  unfold tokenFrom at read
  split at read
  · exact number read
  split at read
  · split at read
    · exact number read
    · cases read
      exact Token.noConfusion
  · exact (@cuts_mark ' ' (by decide) c).more read

end Tokens

end TemplateCalc.Scan
