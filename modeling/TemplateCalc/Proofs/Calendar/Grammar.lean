import Mathlib.Data.List.TakeWhile
import Mathlib.Data.Option.Basic
import Mathlib.Tactic.IntervalCases
import TemplateCalc.Calendar.Read
import TemplateCalc.Proofs.Positional

/-!
The grammar of dates and times of day.

A date text is described by the parts it is made of: digits, marks and blanks. Main statement: a text
is read as a date or as a time exactly if it has such parts, with any blanks around them, and names a
day of the calendar and a time of the day; the count is then the one of the moment that is named.
-/

set_option autoImplicit false

namespace TemplateCalc

/-! ### Blanks around a text -/

namespace Text

def Blank (cs : List Char) : Prop :=
  ∀ c ∈ cs, isBlank c = true

instance (cs : List Char) : Decidable (Blank cs) :=
  decidable_of_iff (cs.all isBlank = true) List.all_eq_true

def Encloses (s : String) (cs : List Char) : Prop :=
  ∃ before behind, s.toList = before ++ cs ++ behind ∧ Blank before ∧ Blank behind

structure Solid (cs : List Char) : Prop where
  front : ∀ c ∈ cs.head?, isBlank c = false
  back : ∀ c ∈ cs.getLast?, isBlank c = false

variable {cs before behind : List Char}

theorem skipBlanks_append (blank : Blank before) (front : ∀ c ∈ cs.head?, isBlank c = false) :
    skipBlanks (before ++ cs) = cs :=
  (cut_of_all blank front).2

theorem dropTrailingBlanks_append (blank : Blank behind)
    (back : ∀ c ∈ cs.getLast?, isBlank c = false) : dropTrailingBlanks (cs ++ behind) = cs := by
  have reversed : Blank behind.reverse := fun c member => blank c (List.mem_reverse.mp member)
  have cut : skipBlanks (behind.reverse ++ cs.reverse) = cs.reverse :=
    skipBlanks_append reversed (by rwa [List.head?_reverse])
  rw [dropTrailingBlanks, List.reverse_append, ← skipBlanks, cut, List.reverse_reverse]

theorem exists_blank_front (cs : List Char) :
    ∃ before, cs = before ++ skipBlanks cs ∧ Blank before :=
  ⟨cs.takeWhile isBlank, List.takeWhile_append_dropWhile.symm, fun _ => List.mem_takeWhile_imp⟩

theorem exists_blank_back (cs : List Char) :
    ∃ behind, cs = dropTrailingBlanks cs ++ behind ∧ Blank behind := by
  obtain ⟨blanks, isSplit, blank⟩ := exists_blank_front cs.reverse
  refine ⟨blanks.reverse, ?_, fun c member => blank c (List.mem_reverse.mp member)⟩
  rw [dropTrailingBlanks, ← skipBlanks, ← List.reverse_append, ← isSplit, List.reverse_reverse]

theorem toList_trim_eq_iff {s : String} (solid : Solid cs) :
    (trim s).toList = cs ↔ Encloses s cs := by
  rw [trim, String.toList_ofList]
  constructor
  · rintro rfl
    obtain ⟨before, isSplit, blank⟩ := exists_blank_front s.toList
    obtain ⟨behind, isSplit', blank'⟩ := exists_blank_back (skipBlanks s.toList)
    exact ⟨before, behind, by rw [List.append_assoc, ← isSplit', ← isSplit], blank, blank'⟩
  · rintro ⟨before, behind, isSplit, blank, blank'⟩
    rw [isSplit, List.append_assoc]
    cases cs with
    | nil =>
        rw [List.nil_append, skipBlanks, dropWhile_of_all]
        · rfl
        · intro c member
          rcases List.mem_append.mp member with isBefore | isBehind
          · exact blank c isBefore
          · exact blank' c isBehind
    | cons c cs =>
        rw [skipBlanks_append blank (by simpa using solid.front),
          dropTrailingBlanks_append blank' solid.back]

end Text

/-! ### Digits -/

namespace Numeral

theorem worth_decimal {c : Char} (digit : c.isDigit = true) :
    isDigit 10 c = true ∧ worth 10 c = c.toNat - '0'.toNat := by
  have inside : '0' ≤ c ∧ c ≤ '9' := by
    have bounds := Scan.isDigit_iff.mp digit
    exact ⟨bounds.1, bounds.2⟩
  have found : digitWorth? c = some (c.toNat - '0'.toNat) := if_pos inside
  have below : c.toNat - '0'.toNat < 10 := by
    have bounds := Scan.isDigit_iff.mp digit
    change c.toNat - 48 < 10
    omega
  refine ⟨isDigit_of_worth found below, ?_⟩
  rw [worth, digit?, found, Option.filter_some, if_pos (decide_eq_true below), Option.getD_some]

theorem isDigit_ten {c : Char} : isDigit 10 c = c.isDigit := by
  rw [Bool.eq_iff_iff]
  exact ⟨decimal_of_isDigit (Nat.le_refl 10), fun digit => (worth_decimal digit).1⟩

end Numeral

namespace Calendar

/-! ### The parts of a text -/

structure IsNumber (most n : Nat) (ds : List Char) : Prop where
  digits : ∀ c ∈ ds, c.isDigit = true
  nonempty : ds ≠ []
  length_le : ds.length ≤ most
  denoted : Nat.ofDigits 10 (ds.reverse.map fun c => c.toNat - '0'.toNat) = n

instance (most n : Nat) (ds : List Char) : Decidable (IsNumber most n ds) :=
  decidable_of_iff (ds.all Char.isDigit = true ∧ ds ≠ [] ∧ ds.length ≤ most ∧
      Nat.ofDigits 10 (ds.reverse.map fun c => c.toNat - '0'.toNat) = n)
    ⟨fun ⟨digits, nonempty, length_le, denoted⟩ =>
        ⟨List.all_eq_true.mp digits, nonempty, length_le, denoted⟩,
      fun ⟨digits, nonempty, length_le, denoted⟩ =>
        ⟨List.all_eq_true.mpr digits, nonempty, length_le, denoted⟩⟩

inductive IsTriple (mark : Char) (lastMost : Nat) : Nat × Nat × Nat → List Char → Prop
  | numbers {a b c : Nat} {as bs cs : List Char} (first : IsNumber 2 a as) (second : IsNumber 2 b bs)
      (third : IsNumber lastMost c cs) :
      IsTriple mark lastMost (a, b, c) (as ++ mark :: (bs ++ mark :: cs))

inductive IsDivider : List Char → Prop
  | blanks {cs : List Char} (some : cs ≠ []) (blank : Text.Blank cs) : IsDivider cs
  | comma {before behind : List Char} (blank : Text.Blank before) (blank' : Text.Blank behind) :
      IsDivider (before ++ ',' :: behind)

/-- The number of days that a month has. A year is a leap year if it is divisible by 4, but not if it
is divisible by 100 and not by 400. -/
def daysIn (year month : Nat) : Nat :=
  if month = 2 then if 4 ∣ year ∧ (100 ∣ year → 400 ∣ year) then 29 else 28
  else if month ∈ [4, 6, 9, 11] then 30
  else 31

structure IsDay (year month day : Nat) : Prop where
  month_pos : 1 ≤ month
  month_le : month ≤ 12
  day_pos : 1 ≤ day
  day_le : day ≤ daysIn year month

instance (year month day : Nat) : Decidable (IsDay year month day) :=
  decidable_of_iff (1 ≤ month ∧ month ≤ 12 ∧ 1 ≤ day ∧ day ≤ daysIn year month)
    ⟨fun ⟨month_pos, month_le, day_pos, day_le⟩ => ⟨month_pos, month_le, day_pos, day_le⟩,
      fun ⟨month_pos, month_le, day_pos, day_le⟩ => ⟨month_pos, month_le, day_pos, day_le⟩⟩

structure IsTime (hour minute second : Nat) : Prop where
  hour_lt : hour < 24
  minute_lt : minute < 60
  second_lt : second < 60

instance (hour minute second : Nat) : Decidable (IsTime hour minute second) :=
  decidable_of_iff (hour < 24 ∧ minute < 60 ∧ second < 60)
    ⟨fun ⟨hour_lt, minute_lt, second_lt⟩ => ⟨hour_lt, minute_lt, second_lt⟩,
      fun ⟨hour_lt, minute_lt, second_lt⟩ => ⟨hour_lt, minute_lt, second_lt⟩⟩

inductive IsDateText : Date → List Char → Prop
  | written {month day year : Nat} {cs : List Char} (numbers : IsTriple '/' 4 (month, day, year) cs)
      (isDay : IsDay year month day) : IsDateText ⟨year, month, day⟩ cs

inductive IsTimeText : Nat → List Char → Prop
  | written {hour minute second : Nat} {cs : List Char}
      (numbers : IsTriple ':' 2 (hour, minute, second) cs) (isTime : IsTime hour minute second) :
      IsTimeText (hour * 3600 + minute * 60 + second) cs

inductive IsMomentText : Moment → List Char → Prop
  | midnight {date : Date} {cs : List Char} (isDate : IsDateText date cs) :
      IsMomentText ⟨date, 0, 0⟩ cs
  | timed {date : Date} {second : Nat} {ds divider ts : List Char} (isDate : IsDateText date ds)
      (divides : IsDivider divider) (isTime : IsTimeText second ts) :
      IsMomentText ⟨date, second, 0⟩ (ds ++ divider ++ ts)

/-! ### Reading the parts -/

def NoDigit (rest : List Char) : Prop :=
  ∀ c ∈ rest.head?, c.isDigit = false

section Reading

variable {most n : Nat} {mark : Char} {cs rest : List Char} {numbers : Nat × Nat × Nat}

theorem value_eq {ds : List Char} (digits : ∀ c ∈ ds, c.isDigit = true) :
    Numeral.value 10 ds = Nat.ofDigits 10 (ds.reverse.map fun c => c.toNat - '0'.toNat) := by
  rw [Numeral.value_eq_ofDigits]
  congr 1
  apply List.map_congr_left
  intro c member
  exact (Numeral.worth_decimal (digits c (List.mem_reverse.mp member))).2

theorem IsNumber.lt_pow {ds : List Char} (number : IsNumber most n ds) : n < 10 ^ most := by
  have below : ∀ d ∈ ds.reverse.map fun c => c.toNat - '0'.toNat, d < 10 := by
    intro d member
    obtain ⟨c, isDigit, rfl⟩ := List.mem_map.mp member
    have bounds := Scan.isDigit_iff.mp (number.digits c (List.mem_reverse.mp isDigit))
    change c.toNat - 48 < 10
    omega
  have bound := Nat.ofDigits_lt_base_pow_length (by decide) below
  rw [number.denoted, List.length_map, List.length_reverse] at bound
  exact bound.trans_le (Nat.pow_le_pow_right (by decide) number.length_le)

theorem field?_eq_some_iff : field? most cs = some (n, rest) ↔
    ∃ ds, cs = ds ++ rest ∧ IsNumber most n ds ∧ NoDigit rest := by
  have isDigit : Numeral.isDigit 10 = Char.isDigit := funext fun _ => Numeral.isDigit_ten
  simp only [field?, isDigit]
  have all : ∀ c ∈ cs.takeWhile Char.isDigit, c.isDigit = true := fun _ => List.mem_takeWhile_imp
  constructor
  · intro found
    split at found
    · cases found
    · rename_i fits
      cases found
      simp only [Bool.or_eq_true, List.isEmpty_iff, decide_eq_true_eq, not_or, Nat.not_lt] at fits
      refine ⟨_, List.takeWhile_append_dropWhile.symm, ⟨all, fits.1, fits.2, (value_eq all).symm⟩, ?_⟩
      intro c isHead
      have ends := List.head?_dropWhile_not Char.isDigit cs
      rw [Option.mem_def.mp isHead] at ends
      exact ends
  · rintro ⟨ds, rfl, number, ends⟩
    obtain ⟨taken, dropped⟩ := Text.cut_of_all number.digits ends
    rw [taken, dropped, if_neg, value_eq number.digits, number.denoted]
    simp [number.nonempty, number.length_le]

theorem noDigit_mark (noDigit : mark.isDigit = false) (cs : List Char) : NoDigit (mark :: cs) := by
  rintro c ⟨⟩
  exact noDigit

theorem head?_tail_eq_some_iff {c : Char} :
    cs.head?.map (·, cs.tail) = some (c, rest) ↔ cs = c :: rest := by
  cases cs with
  | nil => exact ⟨nofun, nofun⟩
  | cons d ds => simp

theorem triple?_eq_some_iff (mark : Char) (noDigit : mark.isDigit = false) :
    triple? mark most cs = some (numbers, rest) ↔
      ∃ ts, cs = ts ++ rest ∧ IsTriple mark most numbers ts ∧ NoDigit rest := by
  simp only [triple?, Option.bind_eq_bind, Option.bind_eq_some_iff, Prod.exists, field?_eq_some_iff,
    head?_tail_eq_some_iff, Option.guard_eq_some', beq_iff_eq, Option.pure_def, Option.some.injEq,
    Prod.mk.injEq]
  constructor
  · rintro ⟨a, _, ⟨as, rfl, first, -⟩, _, _, rfl, _, rfl, b, _, ⟨bs, rfl, second, -⟩, _, _, rfl, _,
      rfl, c, _, ⟨cs, rfl, third, ends⟩, rfl, rfl⟩
    exact ⟨_, by simp, .numbers first second third, ends⟩
  · rintro ⟨_, rfl, ⟨first, second, third⟩, ends⟩
    simp only [List.append_assoc, List.cons_append]
    exact ⟨_, _, ⟨_, rfl, first, noDigit_mark noDigit _⟩, mark, _, rfl, (), rfl, _, _,
      ⟨_, rfl, second, noDigit_mark noDigit _⟩, mark, _, rfl, (), rfl, _, _,
      ⟨_, rfl, third, ends⟩, rfl, rfl⟩

end Reading

section Times

variable {hour minute second : Nat} {cs ts : List Char}

theorem secondOfDay?_eq_some_iff {n : Nat} : secondOfDay? hour minute second = some n ↔
    IsTime hour minute second ∧ hour * 3600 + minute * 60 + second = n := by
  rw [secondOfDay?]
  split
  · rename_i inRange
    exact ⟨fun found => ⟨⟨inRange.1, inRange.2.1, inRange.2.2⟩, Option.some.inj found⟩,
      fun isTime => congrArg some isTime.2⟩
  · rename_i outside
    exact ⟨nofun, fun isTime => absurd ⟨isTime.1.1, isTime.1.2, isTime.1.3⟩ outside⟩

theorem timeOfDay?_eq_some_iff : timeOfDay? cs = some second ↔ IsTimeText second cs := by
  simp only [timeOfDay?, Option.bind_eq_bind, Option.bind_eq_some_iff, Prod.exists,
    triple?_eq_some_iff ':' rfl, Option.guard_eq_some', secondOfDay?_eq_some_iff,
    List.isEmpty_iff]
  constructor
  · rintro ⟨_, _, _, _, ⟨ts, rfl, numbers, -⟩, _, rfl, isTime, rfl⟩
    rw [List.append_nil]
    exact .written numbers isTime
  · rintro ⟨numbers, isTime⟩
    exact ⟨_, _, _, [], ⟨_, (List.append_nil _).symm, numbers, nofun⟩, (), rfl, isTime, rfl⟩

theorem afterDivider?_eq_some_iff (front : ∀ c ∈ ts.head?, Text.isBlank c = false)
    (noComma : ts.head? ≠ some ',') :
    afterDivider? cs = some ts ↔ ∃ divider, cs = divider ++ ts ∧ IsDivider divider := by
  constructor
  · intro found
    obtain ⟨before, isSplit, blank⟩ := Text.exists_blank_front cs
    rw [afterDivider?] at found
    split at found
    · rename_i rest isComma
      cases found
      obtain ⟨behind, isSplit', blank'⟩ := Text.exists_blank_front rest
      refine ⟨before ++ ',' :: behind, ?_, .comma blank blank'⟩
      rw [List.append_assoc, List.cons_append, ← isSplit', ← isComma, ← isSplit]
    · split at found
      · rename_i shorter
        cases found
        -- with no comma something must have been skipped
        refine ⟨before, isSplit, .blanks ?_ blank⟩
        rintro rfl
        rw [List.nil_append] at isSplit
        rw [← isSplit] at shorter
        exact Nat.lt_irrefl _ shorter
      · cases found
  · rintro ⟨divider, rfl, isDivider⟩
    cases isDivider with
    | blanks some blank =>
        rw [afterDivider?, Text.skipBlanks_append blank front]
        split
        · exact absurd rfl noComma
        · have := List.length_pos_iff.mpr some
          rw [if_pos (by rw [List.length_append]; omega)]
    | comma blank blank' =>
        have comma : Text.isBlank ',' = false := by decide
        rw [afterDivider?, List.append_assoc, List.cons_append,
          Text.skipBlanks_append blank (by rintro c ⟨⟩; exact comma)]
        simp only [Text.skipBlanks_append blank' front]

end Times

section Days

variable {year month day : Nat}

theorem isLeap_iff : isLeap year = true ↔ 4 ∣ year ∧ (100 ∣ year → 400 ∣ year) := by
  simp only [isLeap, Bool.and_eq_true, beq_iff_eq, Bool.or_eq_true, bne_iff_ne]
  omega

theorem getElem?_monthLengths (pos : 1 ≤ month) (le : month ≤ 12) :
    (monthLengths year)[month - 1]? = some (daysIn year month) := by
  have leap : (if isLeap year = true then 29 else 28) = daysIn year 2 := by
    simp only [daysIn, isLeap_iff, if_pos]
  rw [monthLengths, leap]
  interval_cases month <;> rfl

theorem isValid_iff : Date.isValid ⟨year, month, day⟩ = true ↔ IsDay year month day := by
  simp only [Date.isValid, Bool.and_eq_true, decide_eq_true_eq]
  constructor
  · rintro ⟨⟨month_pos, day_pos⟩, inside⟩
    have month_le : month ≤ 12 := by
      by_contra above
      rw [List.getElem?_eq_none (by simp only [monthLengths, List.length_cons, List.length_nil]; omega)]
        at inside
      cases inside
    rw [getElem?_monthLengths month_pos month_le] at inside
    exact ⟨month_pos, month_le, day_pos, of_decide_eq_true inside⟩
  · rintro ⟨month_pos, month_le, day_pos, day_le⟩
    rw [getElem?_monthLengths month_pos month_le]
    exact ⟨⟨month_pos, day_pos⟩, decide_eq_true day_le⟩

theorem ofFields?_eq_some_iff {date : Date} : Date.ofFields? year month day = some date ↔
    IsDay year month day ∧ ⟨year, month, day⟩ = date := by
  simp only [Date.ofFields?, isValid_iff, Option.ite_none_right_eq_some, Option.some.injEq]

end Days

/-! ### Texts of dates and times -/

theorem isBlank_digit {c : Char} (digit : c.isDigit = true) : Text.isBlank c = false := by
  have bounds := Scan.isDigit_iff.mp digit
  simp only [Text.isBlank, Bool.or_eq_false_iff, Bool.and_eq_false_iff, decide_eq_false_iff_not,
    beq_eq_false_iff_ne]
  omega

structure Edged (cs : List Char) : Prop where
  front : ∃ c ∈ cs.head?, c.isDigit = true
  back : ∃ c ∈ cs.getLast?, c.isDigit = true

namespace Edged

variable {as cs : List Char}

theorem of_digits (digits : ∀ c ∈ cs, c.isDigit = true) (nonempty : cs ≠ []) : Edged cs :=
  ⟨⟨_, List.head?_eq_some_head nonempty, digits _ (List.head_mem nonempty)⟩,
    ⟨_, List.getLast?_eq_some_getLast nonempty, digits _ (List.getLast_mem nonempty)⟩⟩

theorem join (first : Edged as) (bs : List Char) (last : Edged cs) : Edged (as ++ bs ++ cs) := by
  obtain ⟨c, isFront, digit⟩ := first.front
  obtain ⟨d, isBack, digit'⟩ := last.back
  refine ⟨⟨c, ?_, digit⟩, d, ?_, digit'⟩
  · rw [List.append_assoc, List.head?_append, Option.mem_def.mp isFront]
    rfl
  · rw [List.getLast?_append, Option.mem_def.mp isBack]
    rfl

theorem front_not_blank (edged : Edged cs) : ∀ c ∈ cs.head?, Text.isBlank c = false := by
  obtain ⟨c, isFront, digit⟩ := edged.front
  intro d isHead
  cases Option.mem_unique isFront isHead
  exact isBlank_digit digit

theorem solid (edged : Edged cs) : Text.Solid cs := by
  obtain ⟨c, isBack, digit⟩ := edged.back
  refine ⟨edged.front_not_blank, fun d isLast => ?_⟩
  cases Option.mem_unique isBack isLast
  exact isBlank_digit digit

theorem no_comma (edged : Edged cs) : cs.head? ≠ some ',' := by
  obtain ⟨c, isFront, digit⟩ := edged.front
  intro isComma
  cases Option.mem_unique isFront isComma
  exact Bool.false_ne_true digit

end Edged

section Texts

variable {most n second : Nat} {mark : Char} {numbers : Nat × Nat × Nat} {moment : Moment}
  {cs : List Char} {s : String}

theorem IsNumber.edged (number : IsNumber most n cs) : Edged cs :=
  .of_digits number.digits number.nonempty

theorem IsTriple.edged (triple : IsTriple mark most numbers cs) : Edged cs := by
  obtain ⟨first, second, third⟩ := triple
  have joined := first.edged.join [mark] (second.edged.join [mark] third.edged)
  simp only [List.append_assoc, List.singleton_append] at joined
  exact joined

theorem IsTimeText.edged (isTime : IsTimeText second cs) : Edged cs := by
  obtain ⟨numbers, -⟩ := isTime
  exact numbers.edged

theorem IsDateText.edged {date : Date} (isDate : IsDateText date cs) : Edged cs := by
  obtain ⟨numbers, -⟩ := isDate
  exact numbers.edged

theorem IsMomentText.edged (isMoment : IsMomentText moment cs) : Edged cs := by
  cases isMoment with
  | midnight isDate => exact isDate.edged
  | timed isDate _ isTime => exact isDate.edged.join _ isTime.edged

theorem IsDivider.exists_front (isDivider : IsDivider cs) :
    ∃ c ∈ cs.head?, Text.isBlank c = true ∨ c = ',' := by
  have ofBlanks {blanks rest : List Char} (blank : Text.Blank blanks)
      (front : blanks = [] → ∃ c ∈ rest.head?, Text.isBlank c = true ∨ c = ',') :
      ∃ c ∈ (blanks ++ rest).head?, Text.isBlank c = true ∨ c = ',' := by
    cases blanks with
    | nil => exact front rfl
    | cons c blanks => exact ⟨c, rfl, .inl (blank c List.mem_cons_self)⟩
  cases isDivider with
  | blanks some blank =>
      rw [← List.append_nil cs]
      exact ofBlanks blank fun empty => absurd empty some
  | comma blank _ => exact ofBlanks blank fun _ => ⟨',', rfl, .inr rfl⟩

theorem IsDivider.noDigit {rest : List Char} (isDivider : IsDivider cs) : NoDigit (cs ++ rest) := by
  obtain ⟨c, isFront, blank | rfl⟩ := isDivider.exists_front
  all_goals
    obtain ⟨_, rfl⟩ := List.head?_eq_some_iff.mp isFront
    apply noDigit_mark
  · by_contra digit
    rw [isBlank_digit (Bool.not_eq_false _ ▸ digit)] at blank
    cases blank
  · rfl

theorem moment?_eq_some_iff : moment? s = some moment ↔ IsMomentText moment (Text.trim s).toList := by
  simp only [moment?, Option.bind_eq_bind, Option.bind_eq_some_iff, Prod.exists,
    triple?_eq_some_iff '/' rfl]
  constructor
  · rintro ⟨month, day, year, rest, ⟨ts, isSplit, numbers, ends⟩, found⟩
    rw [isSplit]
    split at found
    · rename_i isEnd
      simp only [Option.bind_eq_some_iff, ofFields?_eq_some_iff, Option.pure_def,
        Option.some.injEq] at found
      obtain ⟨_, ⟨isDay, rfl⟩, rfl⟩ := found
      rw [List.isEmpty_iff.mp isEnd, List.append_nil]
      exact .midnight (.written numbers isDay)
    · simp only [Option.bind_eq_some_iff, ofFields?_eq_some_iff, timeOfDay?_eq_some_iff,
        Option.pure_def, Option.some.injEq] at found
      obtain ⟨us, isAfter, second, isTime, _, ⟨isDay, rfl⟩, rfl⟩ := found
      -- a time starts with a digit, so the divider in front of it ends where the time starts
      have edged := isTime.edged
      obtain ⟨divider, rfl, isDivider⟩ :=
        (afterDivider?_eq_some_iff edged.front_not_blank edged.no_comma).mp isAfter
      rw [← List.append_assoc]
      exact .timed (.written numbers isDay) isDivider isTime
  · generalize (Text.trim s).toList = cs
    intro isMoment
    cases isMoment with
    | midnight isDate =>
        obtain ⟨numbers, isDay⟩ := isDate
        refine ⟨_, _, _, [], ⟨_, (List.append_nil _).symm, numbers, nofun⟩, ?_⟩
        rw [if_pos List.isEmpty_nil, ofFields?_eq_some_iff.mpr ⟨isDay, rfl⟩]
        rfl
    | @timed _ _ _ divider ts isDate isDivider isTime =>
        obtain ⟨numbers, isDay⟩ := isDate
        have edged := isTime.edged
        have isAfter := (afterDivider?_eq_some_iff edged.front_not_blank edged.no_comma).mpr
          ⟨divider, rfl, isDivider⟩
        refine ⟨_, _, _, divider ++ ts, ⟨_, List.append_assoc _ _ _, numbers, isDivider.noDigit⟩, ?_⟩
        rw [if_neg, isAfter, Option.bind_some, timeOfDay?_eq_some_iff.mpr isTime, Option.bind_some,
          ofFields?_eq_some_iff.mpr ⟨isDay, rfl⟩]
        · rfl
        · rw [List.isEmpty_iff, List.append_eq_nil_iff]
          rintro ⟨-, rfl⟩
          exact absurd edged.front nofun

end Texts

/-! ### The characters of a text -/

/-- Blanks aside, all characters are below 128. -/
def Plain (cs : List Char) : Prop :=
  ∀ c ∈ cs, Text.isBlank c = true ∨ c.toNat < 0x80

namespace Plain

variable {cs ds : List Char}

theorem append (plain : Plain cs) (plain' : Plain ds) : Plain (cs ++ ds) := by
  intro c member
  rcases List.mem_append.mp member with inFront | behind
  · exact plain c inFront
  · exact plain' c behind

theorem cons {c : Char} (low : c.toNat < 0x80) (plain : Plain ds) : Plain (c :: ds) := by
  rintro d (_ | ⟨_, member⟩)
  · exact .inr low
  · exact plain d member

theorem of_blank (blank : Text.Blank cs) : Plain cs :=
  fun c member => .inl (blank c member)

theorem of_number {most n : Nat} (number : IsNumber most n cs) : Plain cs := by
  intro c member
  have bounds := Scan.isDigit_iff.mp (number.digits c member)
  exact .inr (by omega)

theorem of_triple {most : Nat} {mark : Char} {numbers : Nat × Nat × Nat} (low : mark.toNat < 0x80)
    (triple : IsTriple mark most numbers cs) : Plain cs := by
  obtain ⟨first, second, third⟩ := triple
  exact (of_number first).append (.cons low ((of_number second).append (.cons low (of_number third))))

theorem of_divider (divider : IsDivider cs) : Plain cs := by
  cases divider with
  | blanks _ blank => exact of_blank blank
  | comma blank blank' => exact (of_blank blank).append (.cons (by decide) (of_blank blank'))

theorem of_date {date : Date} (isDate : IsDateText date cs) : Plain cs := by
  obtain ⟨numbers, -⟩ := isDate
  exact of_triple (by decide) numbers

theorem of_time {second : Nat} (isTime : IsTimeText second cs) : Plain cs := by
  obtain ⟨numbers, -⟩ := isTime
  exact of_triple (by decide) numbers

theorem of_moment {moment : Moment} (isMoment : IsMomentText moment cs) : Plain cs := by
  cases isMoment with
  | midnight isDate => exact of_date isDate
  | timed isDate isDivider isTime =>
      exact ((of_date isDate).append (of_divider isDivider)).append (of_time isTime)

theorem of_encloses {s : String} (encloses : Text.Encloses s cs) (plain : Plain cs) :
    Plain s.toList := by
  obtain ⟨before, behind, isSplit, blank, blank'⟩ := encloses
  rw [isSplit]
  exact ((of_blank blank).append plain).append (of_blank blank')

end Plain

/-! ### Dates and times -/

variable {s : String} {count : Float}

theorem readDate?_eq_some_iff : readDate? s = some count ↔
    ∃ moment cs, Text.Encloses s cs ∧ IsMomentText moment cs ∧ moment.count = count := by
  simp only [readDate?, Option.map_eq_some_iff, moment?_eq_some_iff]
  constructor
  · rintro ⟨moment, isMoment, isCount⟩
    exact ⟨moment, _, (Text.toList_trim_eq_iff isMoment.edged.solid).mp rfl, isMoment, isCount⟩
  · rintro ⟨moment, cs, encloses, isMoment, isCount⟩
    rw [← (Text.toList_trim_eq_iff isMoment.edged.solid).mpr encloses] at isMoment
    exact ⟨moment, isMoment, isCount⟩

theorem readTime?_eq_some_iff : readTime? s = some count ↔
    ∃ second cs, Text.Encloses s cs ∧ IsTimeText second cs ∧
      Moment.count ⟨originDate, second, 0⟩ = count := by
  simp only [readTime?, Option.map_eq_some_iff, timeOfDay?_eq_some_iff]
  constructor
  · rintro ⟨second, isTime, isCount⟩
    exact ⟨second, _, (Text.toList_trim_eq_iff isTime.edged.solid).mp rfl, isTime, isCount⟩
  · rintro ⟨second, cs, encloses, isTime, isCount⟩
    rw [← (Text.toList_trim_eq_iff isTime.edged.solid).mpr encloses] at isTime
    exact ⟨second, isTime, isCount⟩

/-- The texts that are read as dates and times are those of the grammar, and what they are read as is
the day count of what they name. Digits beyond the ten decimal ones are in none of them. -/
theorem read_exactly_grammar (s : String) :
    (∀ count, readDate? s = some count ↔
      ∃ moment cs, Text.Encloses s cs ∧ IsMomentText moment cs ∧ moment.count = count) ∧
    (∀ count, readTime? s = some count ↔
      ∃ second cs, Text.Encloses s cs ∧ IsTimeText second cs ∧
        Moment.count ⟨⟨1899, 12, 30⟩, second, 0⟩ = count) ∧
    ((∃ c ∈ s.toList, Text.isBlank c = false ∧ 0x80 ≤ c.toNat) →
      readDate? s = none ∧ readTime? s = none) := by
  refine ⟨fun _ => readDate?_eq_some_iff, fun _ => readTime?_eq_some_iff, ?_⟩
  rintro ⟨c, member, noBlank, high⟩
  have notPlain : ¬Plain s.toList := by
    intro plain
    rcases plain c member with blank | low
    · exact Bool.false_ne_true (noBlank.symm.trans blank)
    · exact Nat.not_lt.mpr high low
  constructor <;> refine Option.eq_none_iff_forall_ne_some.mpr fun count found => notPlain ?_
  · obtain ⟨moment, cs, encloses, isMoment, -⟩ := readDate?_eq_some_iff.mp found
    exact .of_encloses encloses (.of_moment isMoment)
  · obtain ⟨second, cs, encloses, isTime, -⟩ := readTime?_eq_some_iff.mp found
    exact .of_encloses encloses (.of_time isTime)

/-- A leap day with a time behind a comma is read; with an Arabic digit for its month it is not. -/
theorem read_leap_day :
    readDate? "2/29/2000 ,\t7:05:9 " = some (Moment.count ⟨⟨2000, 2, 29⟩, 25509, 0⟩) ∧
      readDate? "٢/29/2000" = none := by
  have isDate :
      IsDateText ⟨2000, 2, 29⟩ (['2'] ++ '/' :: (['2', '9'] ++ '/' :: ['2', '0', '0', '0'])) :=
    .written (.numbers (by decide) (by decide) (by decide)) (by decide)
  have isTime : IsTimeText (7 * 3600 + 5 * 60 + 9) (['7'] ++ ':' :: (['0', '5'] ++ ':' :: ['9'])) :=
    .written (.numbers (by decide) (by decide) (by decide)) (by decide)
  have isDivider : IsDivider ([' '] ++ ',' :: ['\t']) :=
    .comma (by decide) (by decide)
  refine ⟨((read_exactly_grammar "2/29/2000 ,\t7:05:9 ").1 _).mpr
      ⟨_, _, ⟨[], [' '], by decide, nofun, by decide⟩,
        .timed isDate isDivider isTime, rfl⟩, ?_⟩
  exact ((read_exactly_grammar "٢/29/2000").2.2 ⟨'٢', by decide, by decide, by decide⟩).1

end Calendar

end TemplateCalc
