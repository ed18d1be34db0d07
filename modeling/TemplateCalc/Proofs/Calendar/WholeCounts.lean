import TemplateCalc.Proofs.Calendar.Grammar
import TemplateCalc.Proofs.Calendar.Numbers
import TemplateCalc.Proofs.WholeDoubles
import TemplateCalc.Value.Display

/-!
Dates without a time of day.

The count of a midnight is a whole number of days, so no digit of it is lost. Main statement: a date
without a time is the midnight of the day that is written, from the year 100 on. A date of an earlier
year is read too, but no moment has its count.
-/

set_option autoImplicit false

namespace TemplateCalc.Calendar

def Date.fromOrigin (date : Date) : Int :=
  date.number - originNumber

/-! ### Counts of midnights -/

section Midnight

variable {n : Int} {date : Date}

theorem count_midnight (small : date.fromOrigin.natAbs < 2 ^ 53) :
    Moment.count ⟨date, 0, 0⟩ = Float.ofInt date.fromOrigin := by
  have millis : ((date.number - originNumber) * 86400 + (0 : Nat)) * 1000 + (0 : Nat) =
      date.fromOrigin * millisPerDay := by
    rw [Date.fromOrigin, millisPerDay]
    omega
  have days : (date.fromOrigin * millisPerDay).tdiv millisPerDay = date.fromOrigin :=
    Int.mul_tdiv_cancel _ (by decide)
  have seconds : Float.ofInt 0 / 1000.0 = 0.0 := rfl
  have fraction : 0.0 / secondsPerDay = 0.0 := rfl
  have noLess : ¬(0.0 : Float) < 0.0 := by decide
  rw [Moment.count]
  simp only [millis, days, Int.mul_tmod_left, seconds, if_neg noLess, fraction,
    Double.Whole.ofInt_add_zero small, Double.Whole.ofInt_sub_zero small, ite_self]

theorem ofInt_neg_iff (small : n.natAbs < 2 ^ 53) : Float.ofInt n < 0.0 ↔ n < 0 := by
  have zero : (0.0 : Float) = Float.ofInt 0 := rfl
  rw [zero, Double.Whole.ofInt_lt_ofInt small (by decide)]

theorem wholeDays_ofInt (small : n.natAbs < 2 ^ 53) : wholeDays (Float.ofInt n) = n := by
  simp only [wholeDays, ofInt_neg_iff small]
  split
  · rename_i negative
    obtain ⟨k, isNeg⟩ := Int.eq_ofNat_of_zero_le (Int.neg_nonneg_of_nonpos (Int.le_of_lt negative))
    have same := @Double.Whole.toNat_toUInt64_ofNat k (by omega)
    rw [Double.Whole.neg_ofInt small (by omega), isNeg, same]
    omega
  · rename_i positive
    obtain ⟨k, rfl⟩ := Int.eq_ofNat_of_zero_le (Int.not_lt.mp positive)
    rw [@Double.Whole.toNat_toUInt64_ofNat k small]

theorem ofDaysAndSeconds_zero (n : Int) :
    Moment.ofDaysAndSeconds n (0 : Nat) = ⟨Date.ofNumber (originNumber + n), 0, 0⟩ := by
  have days : (n * 86400 + (0 : Nat)) / 86400 = n := by omega
  have second : ((n * 86400 + (0 : Nat)) % 86400).toNat = 0 := by omega
  rw [Moment.ofDaysAndSeconds]
  simp only [days, second]

theorem inRange_ofInt_iff (small : n.natAbs < 2 ^ 53) :
    leastCount ≤ Float.ofInt n ∧ Float.ofInt n < countBound ↔ -657434 ≤ n ∧ n < 2958466 := by
  have least : leastCount = Float.ofInt (-657434) := rfl
  have bound : countBound = Float.ofInt 2958466 := rfl
  rw [least, bound, Double.Whole.ofInt_le_ofInt (by decide) small,
    Double.Whole.ofInt_lt_ofInt small (by decide)]

theorem ofCount?_ofInt (small : n.natAbs < 2 ^ 53) :
    Moment.ofCount? (Float.ofInt n) =
      if -657434 ≤ n ∧ n < 2958466 then some ⟨Date.ofNumber (originNumber + n), 0, 0⟩ else none := by
  have second : nearestWhole ((0.0 : Float).abs * secondsPerDay) = 0 := rfl
  simp only [Moment.ofCount?, inRange_ofInt_iff small, wholeDays_ofInt small,
    Double.Whole.ofInt_sub_self small, second, ofDaysAndSeconds_zero]

end Midnight

/-! ### The range of the years -/

section Years

variable {year month day : Nat}

theorem IsTriple.last_lt {mark : Char} {most a b c : Nat} {cs : List Char}
    (triple : IsTriple mark most (a, b, c) cs) : c < 10 ^ most := by
  obtain ⟨-, -, third⟩ := triple
  exact third.lt_pow

/-- A day lies between the first days of its year and of the next. -/
theorem fromOrigin_in_year (isDay : IsDay year month day) :
    yearStart year - originNumber ≤ Date.fromOrigin ⟨year, month, day⟩ ∧
      Date.fromOrigin ⟨year, month, day⟩ < yearStart (year + 1) - originNumber := by
  have start : yearStart year ≤ Date.number ⟨year, month, day⟩ := yearStart_le_number _
  have ends : Date.number ⟨year, month, day⟩ < yearStart (year + 1) :=
    number_lt (isValid_iff.mpr isDay)
  rw [Date.fromOrigin]
  omega

theorem fromOrigin_bounds (isDay : IsDay year month day) (short : year < 10 ^ 4) :
    -693959 ≤ Date.fromOrigin ⟨year, month, day⟩ ∧ Date.fromOrigin ⟨year, month, day⟩ < 2958466 := by
  have inYear := fromOrigin_in_year isDay
  have first : yearStart 0 - originNumber = -693959 := by decide
  have last : yearStart 10000 - originNumber = 2958466 := by decide
  have fromFirst := @yearStart_le_of_le 0 year (by omega)
  have toLast := @yearStart_le_of_le (year + 1) 10000 (by omega)
  omega

theorem least_le_fromOrigin_iff (isDay : IsDay year month day) :
    -657434 ≤ Date.fromOrigin ⟨year, month, day⟩ ↔ 100 ≤ year := by
  have inYear := fromOrigin_in_year isDay
  have least : yearStart 100 - originNumber = -657434 := by decide
  constructor
  · intro inRange
    by_contra early
    have toLeast := @yearStart_le_of_le (year + 1) 100 (by omega)
    omega
  · intro late
    have fromLeast := @yearStart_le_of_le 100 year (by omega)
    omega

/-- From the year 100 on, and in no year before it, the count of a midnight has a moment. -/
theorem ofCount?_midnight (isDay : IsDay year month day) (short : year < 10 ^ 4) :
    Moment.ofCount? (Float.ofInt (Date.fromOrigin ⟨year, month, day⟩)) =
      if 100 ≤ year then some ⟨⟨year, month, day⟩, 0, 0⟩ else none := by
  have bounds := fromOrigin_bounds isDay short
  have number : originNumber + Date.fromOrigin ⟨year, month, day⟩ =
      Date.number ⟨year, month, day⟩ := by
    rw [Date.fromOrigin]
    omega
  rw [ofCount?_ofInt (by omega), number, ofNumber_number (isValid_iff.mpr isDay)]
  simp only [least_le_fromOrigin_iff isDay, bounds.2, and_true]

end Years

/-! ### Texts of moments -/

theorem dash_mem_text (moment : Moment) : '-' ∈ moment.text.toList := by
  rw [Moment.text, writeAs, String.toList_join]
  refine List.mem_flatMap.mpr ⟨"-", List.mem_map.mpr ⟨.literal "-", ?_, rfl⟩, by decide⟩
  exact List.mem_append_left _ (by decide)

theorem text_ne_invalidDateText (moment : Moment) : moment.text ≠ invalidDateText := by
  intro same
  have member := dash_mem_text moment
  rw [same] at member
  exact absurd member (by decide)

theorem text_date_eq_invalid_iff {count : Float} :
    (Value.date count).text = invalidDateText ↔ Moment.ofCount? count = none := by
  rw [Value.text]
  cases Moment.ofCount? count with
  | none => exact iff_of_true rfl rfl
  | some moment =>
      rw [Option.elim_some]
      exact iff_of_false (text_ne_invalidDateText moment) (Option.some_ne_none moment)

/-! ### Texts without a time -/

theorem IsTimeText.colon_mem {second : Nat} {cs : List Char} (isTime : IsTimeText second cs) :
    ':' ∈ cs := by
  obtain ⟨⟨first, second, third⟩, -⟩ := isTime
  exact List.mem_append_right _ List.mem_cons_self

section Reading

variable {s : String} {count : Float}

theorem exists_date_of_no_colon (isRead : readDate? s = some count) (noTime : ':' ∉ s.toList) :
    ∃ date cs, Text.Encloses s cs ∧ IsDateText date cs ∧ Moment.count ⟨date, 0, 0⟩ = count := by
  obtain ⟨moment, cs, encloses, isMoment, isCount⟩ := readDate?_eq_some_iff.mp isRead
  cases isMoment with
  | midnight isDate => exact ⟨_, cs, encloses, isDate, isCount⟩
  | timed _ _ isTime =>
      obtain ⟨before, behind, isSplit, -⟩ := encloses
      refine absurd ?_ noTime
      rw [isSplit]
      simp only [List.mem_append, isTime.colon_mem, or_true, true_or]

theorem count_of_day {year month day : Nat} (isDay : IsDay year month day)
    (short : year < 10 ^ 4) :
    Moment.count ⟨⟨year, month, day⟩, 0, 0⟩ = Float.ofInt (Date.fromOrigin ⟨year, month, day⟩) := by
  have bounds := fromOrigin_bounds isDay short
  exact count_midnight (by omega)

theorem readDate?_of_day {month day year : Nat} {cs : List Char} (encloses : Text.Encloses s cs)
    (numbers : IsTriple '/' 4 (month, day, year) cs) (isDay : IsDay year month day) :
    readDate? s = some (Float.ofInt (Date.fromOrigin ⟨year, month, day⟩)) :=
  readDate?_eq_some_iff.mpr ⟨⟨⟨year, month, day⟩, 0, 0⟩, cs, encloses,
    .midnight (.written numbers isDay), count_of_day isDay numbers.last_lt⟩

/-- A date without a time is read as the whole number of days from day 0 to the day that is written.
It is the midnight of that day if the year is 100 or later, and invalid if the year is earlier. -/
theorem date_without_time (isRead : readDate? s = some count) (noTime : ':' ∉ s.toList) :
    ∃ (month day year : Nat) (cs : List Char),
      Text.Encloses s cs ∧ IsTriple '/' 4 (month, day, year) cs ∧ IsDay year month day ∧
      count = Float.ofInt (Date.number ⟨year, month, day⟩ - originNumber) ∧
      Moment.ofCount? count = (if 100 ≤ year then some ⟨⟨year, month, day⟩, 0, 0⟩ else none) ∧
      ((Value.date count).text = invalidDateText ↔ year < 100) := by
  obtain ⟨date, cs, encloses, isDate, isCount⟩ := exists_date_of_no_colon isRead noTime
  obtain @⟨month, day, year, _, numbers, isDay⟩ := isDate
  have short := numbers.last_lt
  rw [count_of_day isDay short] at isCount
  subst isCount
  refine ⟨month, day, year, cs, encloses, numbers, isDay, rfl, ofCount?_midnight isDay short, ?_⟩
  rw [text_date_eq_invalid_iff, ofCount?_midnight isDay short]
  split
  · rename_i late
    exact iff_of_false (Option.some_ne_none _) (Nat.not_lt.mpr late)
  · rename_i early
    exact iff_of_true rfl (Nat.not_le.mp early)

end Reading

/-- The leap day of the year 400 is the midnight of a day. -/
theorem leap_day_of_year_400 :
    ∃ count, readDate? "2/29/400" = some count ∧ ':' ∉ "2/29/400".toList ∧
      ∃ (month day year : Nat) (cs : List Char),
        Text.Encloses "2/29/400" cs ∧ IsTriple '/' 4 (month, day, year) cs ∧ IsDay year month day ∧
        count = Float.ofInt (Date.number ⟨year, month, day⟩ - originNumber) ∧
        Moment.ofCount? count = (if 100 ≤ year then some ⟨⟨year, month, day⟩, 0, 0⟩ else none) ∧
        ((Value.date count).text = invalidDateText ↔ year < 100) := by
  have encloses : Text.Encloses "2/29/400" (['2'] ++ '/' :: (['2', '9'] ++ '/' :: ['4', '0', '0'])) :=
    ⟨[], [], rfl, nofun, nofun⟩
  have numbers : IsTriple '/' 4 (2, 29, 400) (['2'] ++ '/' :: (['2', '9'] ++ '/' :: ['4', '0', '0'])) :=
    .numbers (by decide) (by decide) (by decide)
  have isRead := readDate?_of_day encloses numbers (by decide)
  have noTime : ':' ∉ "2/29/400".toList := by decide
  exact ⟨_, isRead, noTime, date_without_time isRead noTime⟩

/-- Not every date that is read is valid: the first day of the year 50 is a whole number of days that
no moment has. -/
theorem first_day_of_year_50 :
    ¬∀ (s : String) (count : Float), readDate? s = some count → ':' ∉ s.toList →
      (Moment.ofCount? count).isSome = true ∧ (Value.date count).text ≠ invalidDateText := by
  intro valid
  have encloses : Text.Encloses "1/1/50" (['1'] ++ '/' :: (['1'] ++ '/' :: ['5', '0'])) :=
    ⟨[], [], rfl, nofun, nofun⟩
  have numbers : IsTriple '/' 4 (1, 1, 50) (['1'] ++ '/' :: (['1'] ++ '/' :: ['5', '0'])) :=
    .numbers (by decide) (by decide) (by decide)
  have isDay : IsDay 50 1 1 := by decide
  have isSome := (valid "1/1/50" _ (readDate?_of_day encloses numbers isDay) (by decide)).1
  rw [ofCount?_midnight isDay (by decide)] at isSome
  exact absurd isSome (by decide)

end TemplateCalc.Calendar
