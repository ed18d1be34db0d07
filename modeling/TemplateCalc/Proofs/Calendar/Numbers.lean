import TemplateCalc.Calendar.Date

/-!
Days and their numbers.

Years follow each other without gaps and have 365 or 366 days, and months divide them. Main statement:
a day of the calendar is the one with its number.
-/

set_option autoImplicit false

namespace TemplateCalc.Calendar

/-! ### Years -/

def yearLength (year : Int) : Nat :=
  if isLeap year then 366 else 365

theorem yearStart_succ (year : Int) : yearStart (year + 1) = yearStart year + yearLength year := by
  simp only [yearStart, yearLength, isLeap, Bool.and_eq_true, beq_iff_eq, Bool.or_eq_true,
    bne_iff_ne]
  split <;> omega

theorem yearStart_le_of_le {a b : Int} (le : a ≤ b) : yearStart a ≤ yearStart b := by
  simp only [yearStart]
  omega

/-- The mean length of a year misses no year by more than one. -/
theorem guess_bounds {year n : Int} (start : yearStart year ≤ n) (ends : n < yearStart (year + 1)) :
    year - 1 ≤ n * 400 / 146097 + 1 ∧ n * 400 / 146097 + 1 ≤ year + 1 := by
  simp only [yearStart] at start ends
  omega

theorem yearOf_eq {year n : Int} (start : yearStart year ≤ n) (ends : n < yearStart (year + 1)) :
    yearOf n = year := by
  have bounds := guess_bounds start ends
  have next := @yearStart_le_of_le (year + 1) (year + 2) (by omega)
  rw [yearOf]
  generalize n * 400 / 146097 + 1 = guess at bounds
  obtain rfl | rfl | rfl : guess = year - 1 ∨ guess = year ∨ guess = year + 1 := by omega
  · simp only [Int.sub_add_cancel, if_pos start]
  · simp only [if_neg (Int.not_le.mpr ends), if_pos start]
  · have afterNext : ¬yearStart (year + 1 + 1) ≤ n := by
      rw [Int.add_assoc]
      exact Int.not_le.mpr (Int.lt_of_lt_of_le ends next)
    simp only [if_neg afterNext, if_neg (Int.not_le.mpr ends), Int.add_sub_cancel]

/-! ### Months -/

def total (lengths : List Nat) : Nat :=
  lengths.foldr (· + ·) 0

theorem total_cons (length : Nat) (lengths : List Nat) :
    total (length :: lengths) = length + total lengths :=
  rfl

theorem total_monthLengths (year : Int) : total (monthLengths year) = yearLength year := by
  simp only [monthLengths, total_cons, yearLength]
  split <;> rfl

section Months

variable {lengths : List Nat} {index length day : Nat}

theorem monthAndDay_eq (isLength : lengths[index]? = some length) (pos : 1 ≤ day)
    (le : day ≤ length) (month : Nat) :
    monthAndDay month (total (lengths.take index) + (day - 1)) lengths = (month + index, day) := by
  induction lengths generalizing index month with
  | nil => cases isLength
  | cons first lengths ih =>
      cases index with
      | zero =>
          cases isLength
          have none : total [] + (day - 1) = day - 1 := Nat.zero_add _
          rw [List.take_zero, none, monthAndDay, if_pos (by omega), Nat.sub_add_cancel pos,
            Nat.add_zero]
      | succ index =>
          have rest : first + total (lengths.take index) + (day - 1) - first =
              total (lengths.take index) + (day - 1) := by omega
          rw [List.take_succ_cons, total_cons, monthAndDay, if_neg (by omega), rest,
            ih isLength, Nat.add_assoc, Nat.add_comm 1]

theorem lt_total (isLength : lengths[index]? = some length) (pos : 1 ≤ day) (le : day ≤ length) :
    total (lengths.take index) + (day - 1) < total lengths := by
  induction lengths generalizing index with
  | nil => cases isLength
  | cons first lengths ih =>
      cases index with
      | zero =>
          cases isLength
          have none : total [] + (day - 1) = day - 1 := Nat.zero_add _
          rw [List.take_zero, none, total_cons]
          omega
      | succ index =>
          have below := ih isLength
          rw [List.take_succ_cons, total_cons, total_cons]
          omega

end Months

/-! ### Days -/

section Days

variable {date : Date}

theorem exists_length (valid : date.isValid = true) :
    1 ≤ date.month ∧ 1 ≤ date.day ∧
      ∃ length, (monthLengths date.year)[date.month - 1]? = some length ∧ date.day ≤ length := by
  simp only [Date.isValid, Bool.and_eq_true, decide_eq_true_eq, Option.any_eq_true] at valid
  exact ⟨valid.1.1, valid.1.2, valid.2⟩

theorem number_eq (date : Date) : date.number = yearStart date.year +
    (total ((monthLengths date.year).take (date.month - 1)) + (date.day - 1) : Nat) :=
  rfl

theorem yearStart_le_number (date : Date) : yearStart date.year ≤ date.number := by
  rw [number_eq]
  omega

theorem number_lt (valid : date.isValid = true) : date.number < yearStart (date.year + 1) := by
  obtain ⟨-, day_pos, length, isLength, day_le⟩ := exists_length valid
  have below := lt_total isLength day_pos day_le
  rw [total_monthLengths] at below
  rw [number_eq, yearStart_succ]
  omega

theorem ofNumber_number (valid : date.isValid = true) : Date.ofNumber date.number = date := by
  obtain ⟨month_pos, day_pos, length, isLength, day_le⟩ := exists_length valid
  have year := yearOf_eq (yearStart_le_number date) (number_lt valid)
  have rest : (date.number - yearStart date.year).toNat =
      total ((monthLengths date.year).take (date.month - 1)) + (date.day - 1) := by
    rw [number_eq]
    omega
  rw [Date.ofNumber, year]
  simp only [rest, monthAndDay_eq isLength day_pos day_le, Nat.add_sub_cancel' month_pos]

end Days

end TemplateCalc.Calendar
