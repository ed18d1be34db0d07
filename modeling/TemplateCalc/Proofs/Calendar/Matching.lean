import TemplateCalc.Proofs.Calendar.Grammar

/-!
The patterns of dates and times of day.

A date or a time is first matched with a pattern, whose digits are those of every script, and the
groups of digits that the match found are then parsed as numbers of 32 bits, whose digits are the ten
ASCII ones. Here the match and the parse are stated apart. Main statements: a match finds its groups
in one way only, and matching and then parsing is what the readers do, whatever digits of other
scripts the patterns take.
-/

set_option autoImplicit false

namespace TemplateCalc.Calendar

/-! ### Matching -/

/-- The characters that `\d` stands for. There are more of them in every edition of the character
tables, but neither blanks nor the marks of a pattern nor a sign become digits. -/
structure DigitClass where
  holds : Char → Bool
  ascii : ∀ c, c.isDigit = true → holds c = true
  no_blank : ∀ c, Text.isBlank c = true → holds c = false
  no_mark : ∀ c ∈ ['/', ':', ',', '+'], holds c = false

structure IsGroup (digits : DigitClass) (most : Nat) (ds : List Char) : Prop where
  within : ∀ c ∈ ds, digits.holds c = true
  nonempty : ds ≠ []
  length_le : ds.length ≤ most

instance (digits : DigitClass) (most : Nat) (ds : List Char) : Decidable (IsGroup digits most ds) :=
  decidable_of_iff (ds.all digits.holds = true ∧ ds ≠ [] ∧ ds.length ≤ most)
    ⟨fun ⟨within, nonempty, length_le⟩ => ⟨List.all_eq_true.mp within, nonempty, length_le⟩,
      fun ⟨within, nonempty, length_le⟩ => ⟨List.all_eq_true.mpr within, nonempty, length_le⟩⟩

structure Groups where
  first : List Char
  second : List Char
  third : List Char

/-- Three groups with a mark between them. The times are matched with `Row digits ':' 2`, that is with
`^(\d{1,2}):(\d{1,2}):(\d{1,2})$`. -/
structure Row (digits : DigitClass) (mark : Char) (lastMost : Nat) (groups : Groups)
    (cs : List Char) : Prop where
  spelled : cs = groups.first ++ mark :: (groups.second ++ mark :: groups.third)
  first : IsGroup digits 2 groups.first
  second : IsGroup digits 2 groups.second
  third : IsGroup digits lastMost groups.third

/-- The optional part `(?:(?:\s+|\s*,\s*)(\d{1,2}):(\d{1,2}):(\d{1,2}))?` behind a date. -/
inductive BehindDate (digits : DigitClass) : Option Groups → List Char → Prop
  | nothing : BehindDate digits none []
  | time {groups : Groups} {divider ts : List Char} (divides : IsDivider divider)
      (isTime : Row digits ':' 2 groups ts) : BehindDate digits (some groups) (divider ++ ts)

/-- The pattern of the dates, `^(\d{1,2})/(\d{1,2})/(\d{1,4})` and then the optional part up to the end,
with the groups of the date and those of the time if there is one. -/
def MatchesDate (digits : DigitClass) (date : Groups) (time : Option Groups) (cs : List Char) : Prop :=
  ∃ ds rest, cs = ds ++ rest ∧ Row digits '/' 4 date ds ∧ BehindDate digits time rest

/-! ### Parsing -/

/-- A group as an unsigned number of 32 bits. A sign may stand before the digits. -/
def parse? (ds : List Char) : Option Nat :=
  let ds := if ds.head? = some '+' then ds.tail else ds
  if !ds.isEmpty && ds.all Char.isDigit && Numeral.value 10 ds < UInt32.size then
    some (Numeral.value 10 ds)
  else none

def Groups.parse? (groups : Groups) : Option (Nat × Nat × Nat) := do
  return (← Calendar.parse? groups.first, ← Calendar.parse? groups.second,
    ← Calendar.parse? groups.third)

def Groups.time? (groups : Groups) : Option Nat := do
  let (hour, minute, second) ← groups.parse?
  secondOfDay? hour minute second

def Groups.date? (groups : Groups) : Option Date := do
  let (month, day, year) ← groups.parse?
  Date.ofFields? year month day

def named? (date : Groups) (time : Option Groups) : Option Moment := do
  let date ← date.date?
  let second ← time.elim (some 0) Groups.time?
  return ⟨date, second, 0⟩

/-! ### A match finds its groups in one way -/

section Unique

variable {digits : DigitClass} {mark : Char} {most : Nat} {groups groups' : Groups}
  {ds es cs rest rest' : List Char}

theorem DigitClass.not_blank (digits : DigitClass) {c : Char} (holds : digits.holds c = true) :
    Text.isBlank c = false := by
  by_contra blank
  rw [digits.no_blank c (Bool.not_eq_false _ ▸ blank)] at holds
  cases holds

theorem DigitClass.not_mark (digits : DigitClass) (isMark : mark ∈ ['/', ':', ',', '+']) :
    digits.holds mark ≠ true := by
  rw [digits.no_mark mark isMark]
  exact Bool.false_ne_true

/-- A text can be cut in one way into digits of a class and what starts with none of them. -/
theorem DigitClass.cut_unique (within : ∀ c ∈ ds, digits.holds c = true)
    (within' : ∀ c ∈ es, digits.holds c = true) (ends : ∀ c ∈ rest.head?, digits.holds c = false)
    (ends' : ∀ c ∈ rest'.head?, digits.holds c = false) (same : ds ++ rest = es ++ rest') :
    ds = es ∧ rest = rest' := by
  obtain ⟨taken, dropped⟩ := Text.cut_of_all within ends
  obtain ⟨taken', dropped'⟩ := Text.cut_of_all within' ends'
  rw [same] at taken dropped
  exact ⟨taken.symm.trans taken', dropped.symm.trans dropped'⟩

theorem DigitClass.ends_mark (digits : DigitClass) (isMark : mark ∈ ['/', ':', ',', '+'])
    (rest : List Char) : ∀ c ∈ (mark :: rest).head?, digits.holds c = false := by
  rintro c ⟨⟩
  exact digits.no_mark mark isMark

theorem Row.unique (isMark : mark ∈ ['/', ':', ',', '+']) (row : Row digits mark most groups ds)
    (row' : Row digits mark most groups' es) (ends : ∀ c ∈ rest.head?, digits.holds c = false)
    (ends' : ∀ c ∈ rest'.head?, digits.holds c = false) (same : ds ++ rest = es ++ rest') :
    groups = groups' ∧ rest = rest' := by
  obtain ⟨rfl, first, second, third⟩ := row
  obtain ⟨rfl, first', second', third'⟩ := row'
  simp only [List.append_assoc, List.cons_append] at same
  obtain ⟨sameFirst, behind⟩ := DigitClass.cut_unique first.within first'.within
    (digits.ends_mark isMark _) (digits.ends_mark isMark _) same
  obtain ⟨sameSecond, behind⟩ := DigitClass.cut_unique second.within second'.within
    (digits.ends_mark isMark _) (digits.ends_mark isMark _) (List.tail_eq_of_cons_eq behind)
  obtain ⟨sameThird, sameRest⟩ := DigitClass.cut_unique third.within third'.within ends ends'
    (List.tail_eq_of_cons_eq behind)
  cases groups
  cases groups'
  exact ⟨congr (congrArg₂ Groups.mk sameFirst sameSecond) sameThird, sameRest⟩

theorem Row.unique_whole (isMark : mark ∈ ['/', ':', ',', '+']) (row : Row digits mark most groups cs)
    (row' : Row digits mark most groups' cs) : groups = groups' := by
  have ends : ∀ c ∈ ([] : List Char).head?, digits.holds c = false := nofun
  exact (Row.unique isMark row row' ends ends rfl).1

theorem Row.front (row : Row digits mark most groups cs) : ∃ c ∈ cs.head?, digits.holds c = true := by
  obtain ⟨rfl, first, -, -⟩ := row
  obtain ⟨c, ds, isFirst⟩ := List.exists_cons_of_ne_nil first.nonempty
  exact ⟨c, by rw [isFirst]; rfl, first.within c (by rw [isFirst]; exact List.mem_cons_self)⟩

/-- What divides a date from a time is over where the digits of the time begin. -/
theorem Row.after_divider (time : Row digits mark most groups cs) (divides : IsDivider ds) :
    afterDivider? (ds ++ cs) = some cs := by
  obtain ⟨c, isFront, holds⟩ := time.front
  have noBlank : ∀ d ∈ cs.head?, Text.isBlank d = false := by
    intro d isHead
    cases Option.mem_unique isFront isHead
    exact digits.not_blank holds
  have noComma : cs.head? ≠ some ',' := by
    intro isComma
    cases Option.mem_unique isFront isComma
    exact digits.not_mark (by simp) holds
  exact (afterDivider?_eq_some_iff noBlank noComma).mpr ⟨ds, rfl, divides⟩

section Behind

variable {time time' : Option Groups}

theorem BehindDate.ends (behind : BehindDate digits time cs) :
    ∀ c ∈ cs.head?, digits.holds c = false := by
  cases behind with
  | nothing => nofun
  | time divides _ =>
      obtain ⟨c, isFront, isDivider⟩ := divides.exists_front
      obtain ⟨_, rfl⟩ := List.head?_eq_some_iff.mp isFront
      rintro _ ⟨⟩
      rcases isDivider with blank | rfl
      · exact digits.no_blank c blank
      · exact digits.no_mark ',' (by simp)

/-- The reader finds the time that the match found, and none where nothing is behind the date. -/
theorem BehindDate.afterDivider? (behind : BehindDate digits time cs) :
    (time = none ∧ cs = []) ∨ ∃ groups ts, time = some groups ∧ Row digits ':' 2 groups ts ∧
      Calendar.afterDivider? cs = some ts := by
  cases behind with
  | nothing => exact .inl ⟨rfl, rfl⟩
  | @time groups _ ts divides isTime =>
      exact .inr ⟨groups, ts, rfl, isTime, isTime.after_divider divides⟩

theorem BehindDate.unique (behind : BehindDate digits time cs) (behind' : BehindDate digits time' cs) :
    time = time' := by
  rcases behind.afterDivider? with ⟨rfl, rfl⟩ | ⟨groups, ts, rfl, isTime, after⟩
  · rcases behind'.afterDivider? with ⟨rfl, -⟩ | ⟨_, _, -, -, after'⟩
    · rfl
    · cases after'
  · rcases behind'.afterDivider? with ⟨-, rfl⟩ | ⟨groups', ts', rfl, isTime', after'⟩
    · cases after
    · cases Option.some.inj (after.symm.trans after')
      exact congrArg some (Row.unique_whole (by simp) isTime isTime')

theorem MatchesDate.unique {date date' : Groups} (isMatch : MatchesDate digits date time cs)
    (isMatch' : MatchesDate digits date' time' cs) : date = date' ∧ time = time' := by
  obtain ⟨ds, rest, isWhole, isDate, behind⟩ := isMatch
  obtain ⟨ds', rest', isWhole', isDate', behind'⟩ := isMatch'
  obtain ⟨sameDate, rfl⟩ := Row.unique (by simp) isDate isDate' behind.ends behind'.ends
    (isWhole.symm.trans isWhole')
  exact ⟨sameDate, behind.unique behind'⟩

end Behind

end Unique

/-! ### Matching and then parsing -/

section Parsing

variable {mark : Char} {most n second : Nat} {numbers : Nat × Nat × Nat} {date : Date}
  {moment : Moment} {ds cs : List Char} {s : String}

theorem IsGroup.no_sign {digits : DigitClass} (group : IsGroup digits most ds) :
    ds.head? ≠ some '+' :=
  fun isSign => digits.not_mark (by simp) (group.within '+' (List.mem_of_mem_head? isSign))

theorem parse?_eq_some_iff (noSign : ds.head? ≠ some '+') : parse? ds = some n ↔
    ds ≠ [] ∧ (∀ c ∈ ds, c.isDigit = true) ∧ n < UInt32.size ∧ Numeral.value 10 ds = n := by
  simp only [parse?, if_neg noSign, Option.ite_none_right_eq_some, Option.some.injEq,
    Bool.and_eq_true, Bool.not_eq_true', List.isEmpty_eq_false_iff, List.all_eq_true,
    decide_eq_true_eq]
  constructor
  · rintro ⟨⟨⟨nonempty, decimal⟩, fits⟩, rfl⟩
    exact ⟨nonempty, decimal, fits, rfl⟩
  · rintro ⟨nonempty, decimal, fits, rfl⟩
    exact ⟨⟨⟨nonempty, decimal⟩, fits⟩, rfl⟩

variable (digits : DigitClass)

theorem isNumber_iff (short : most ≤ 9) :
    IsNumber most n ds ↔ IsGroup digits most ds ∧ parse? ds = some n := by
  constructor
  · intro number
    have group : IsGroup digits most ds :=
      ⟨fun c member => digits.ascii c (number.digits c member), number.nonempty, number.length_le⟩
    have fits : n < UInt32.size :=
      calc n < 10 ^ most := number.lt_pow
        _ ≤ 10 ^ 9 := Nat.pow_le_pow_right (by omega) short
        _ ≤ UInt32.size := by decide
    exact ⟨group, (parse?_eq_some_iff group.no_sign).mpr
      ⟨number.nonempty, number.digits, fits, (value_eq number.digits).trans number.denoted⟩⟩
  · rintro ⟨group, parsed⟩
    obtain ⟨nonempty, decimal, -, isValue⟩ := (parse?_eq_some_iff group.no_sign).mp parsed
    exact ⟨decimal, nonempty, group.length_le, (value_eq decimal).symm.trans isValue⟩

theorem isTriple_iff (short : most ≤ 9) : IsTriple mark most numbers cs ↔
    ∃ groups, Row digits mark most groups cs ∧ groups.parse? = some numbers := by
  simp only [Groups.parse?, Option.bind_eq_bind, Option.bind_eq_some_iff, Option.pure_def,
    Option.some.injEq]
  constructor
  · rintro ⟨first, second, third⟩
    rw [isNumber_iff digits (by omega)] at first second
    rw [isNumber_iff digits short] at third
    exact ⟨⟨_, _, _⟩, ⟨rfl, first.1, second.1, third.1⟩, _, first.2, _, second.2, _, third.2, rfl⟩
  · rintro ⟨groups, ⟨rfl, first, second, third⟩, a, isFirst, b, isSecond, c, isThird, rfl⟩
    exact .numbers ((isNumber_iff digits (by omega)).mpr ⟨first, isFirst⟩)
      ((isNumber_iff digits (by omega)).mpr ⟨second, isSecond⟩)
      ((isNumber_iff digits short).mpr ⟨third, isThird⟩)

theorem isTimeText_iff : IsTimeText second cs ↔
    ∃ groups, Row digits ':' 2 groups cs ∧ groups.time? = some second := by
  simp only [Groups.time?, Option.bind_eq_bind, Option.bind_eq_some_iff, Prod.exists,
    secondOfDay?_eq_some_iff]
  constructor
  · rintro ⟨numbers, isTime⟩
    obtain ⟨groups, row, parsed⟩ := (isTriple_iff digits (by omega)).mp numbers
    exact ⟨groups, row, _, _, _, parsed, isTime, rfl⟩
  · rintro ⟨groups, row, hour, minute, second, parsed, isTime, rfl⟩
    exact .written ((isTriple_iff digits (by omega)).mpr ⟨groups, row, parsed⟩) isTime

theorem isDateText_iff : IsDateText date cs ↔
    ∃ groups, Row digits '/' 4 groups cs ∧ groups.date? = some date := by
  simp only [Groups.date?, Option.bind_eq_bind, Option.bind_eq_some_iff, Prod.exists,
    ofFields?_eq_some_iff]
  constructor
  · rintro ⟨numbers, isDay⟩
    obtain ⟨groups, row, parsed⟩ := (isTriple_iff digits (by omega)).mp numbers
    exact ⟨groups, row, _, _, _, parsed, isDay, rfl⟩
  · rintro ⟨groups, row, month, day, year, parsed, isDay, rfl⟩
    exact .written ((isTriple_iff digits (by omega)).mpr ⟨groups, row, parsed⟩) isDay

theorem isMomentText_iff : IsMomentText moment cs ↔
    ∃ date time, MatchesDate digits date time cs ∧ named? date time = some moment := by
  simp only [named?, Option.bind_eq_bind, Option.bind_eq_some_iff, Option.pure_def,
    Option.some.injEq]
  constructor
  · intro isMoment
    cases isMoment with
    | midnight isDate =>
        obtain ⟨date, row, named⟩ := (isDateText_iff digits).mp isDate
        exact ⟨date, none, ⟨_, _, (List.append_nil _).symm, row, .nothing⟩, _, named, 0, rfl, rfl⟩
    | timed isDate divides isTime =>
        obtain ⟨date, row, named⟩ := (isDateText_iff digits).mp isDate
        obtain ⟨time, row', named'⟩ := (isTimeText_iff digits).mp isTime
        exact ⟨date, some time, ⟨_, _, List.append_assoc _ _ _, row, .time divides row'⟩, _, named, _,
          named', rfl⟩
  · rintro ⟨date, time, ⟨ds, rest, rfl, row, behind⟩, day, named, second, named', rfl⟩
    have isDate := (isDateText_iff digits).mpr ⟨date, row, named⟩
    cases behind with
    | nothing =>
        cases named'
        rw [List.append_nil]
        exact .midnight isDate
    | time divides row' =>
        rw [← List.append_assoc]
        exact .timed isDate divides ((isTimeText_iff digits).mpr ⟨_, row', named'⟩)

/-- Reading a date is matching its pattern and then parsing the groups, whatever the digits of the
pattern. -/
theorem moment?_eq_some_iff_matched : moment? s = some moment ↔
    ∃ date time, MatchesDate digits date time (Text.trim s).toList ∧ named? date time = some moment :=
  moment?_eq_some_iff.trans (isMomentText_iff digits)

/-- The same for the times of day. -/
theorem timeOfDay?_eq_some_iff_matched : timeOfDay? cs = some second ↔
    ∃ groups, Row digits ':' 2 groups cs ∧ groups.time? = some second :=
  timeOfDay?_eq_some_iff.trans (isTimeText_iff digits)

end Parsing

def isAsciiOrArabic (c : Char) : Bool :=
  c.isDigit || (0x660 ≤ c.toNat && c.toNat ≤ 0x669)

theorem isAsciiOrArabic_of_isDigit (c : Char) (digit : c.isDigit = true) :
    isAsciiOrArabic c = true := by
  rw [isAsciiOrArabic, digit, Bool.true_or]

theorem not_isAsciiOrArabic_of_isBlank (c : Char) (blank : Text.isBlank c = true) :
    isAsciiOrArabic c = false := by
  simp only [Text.isBlank, Bool.or_eq_true, Bool.and_eq_true, decide_eq_true_eq, beq_iff_eq] at blank
  rw [isAsciiOrArabic, Bool.or_eq_false_iff, Bool.and_eq_false_iff, ← Bool.not_eq_true,
    Scan.isDigit_iff, decide_eq_false_iff_not, decide_eq_false_iff_not]
  omega

theorem not_isAsciiOrArabic_of_mark (c : Char) (isMark : c ∈ ['/', ':', ',', '+']) :
    isAsciiOrArabic c = false := by
  simp only [List.mem_cons, List.not_mem_nil, or_false] at isMark
  rcases isMark with rfl | rfl | rfl | rfl <;> rfl

/-- The ten ASCII digits and the ten Arabic ones, as an example of a class. -/
def asciiOrArabic : DigitClass where
  holds := isAsciiOrArabic
  ascii := isAsciiOrArabic_of_isDigit
  no_blank := not_isAsciiOrArabic_of_isBlank
  no_mark := not_isAsciiOrArabic_of_mark

-- the pattern matches, and the parse refuses the hour
example : Row asciiOrArabic ':' 2 ⟨['٢'], ['3'], ['0']⟩ "٢:3:0".toList ∧
    timeOfDay? "٢:3:0".toList = none :=
  ⟨⟨by decide, by decide, by decide, by decide⟩, by decide⟩

end TemplateCalc.Calendar
