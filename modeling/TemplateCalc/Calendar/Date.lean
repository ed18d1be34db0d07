/-!
Days of the Gregorian calendar, extended to all years, and moments of a day.

Days are numbered from the first of January of year 1, which has the number 0.
-/

set_option autoImplicit false

namespace TemplateCalc.Calendar

structure Date where
  year : Int
  month : Nat
  day : Nat
  deriving DecidableEq, Repr

structure Moment where
  date : Date
  second : Nat
  milli : Nat
  deriving DecidableEq, Repr

def isLeap (year : Int) : Bool :=
  year % 4 == 0 && (year % 100 != 0 || year % 400 == 0)

def monthLengths (year : Int) : List Nat :=
  [31, if isLeap year then 29 else 28, 31, 30, 31, 30, 31, 31, 30, 31, 30, 31]

def yearStart (year : Int) : Int :=
  let p := year - 1
  365 * p + p / 4 - p / 100 + p / 400

def Date.dayOfYear (d : Date) : Nat :=
  ((monthLengths d.year).take (d.month - 1)).foldr (· + ·) 0 + (d.day - 1)

def Date.number (d : Date) : Int :=
  yearStart d.year + d.dayOfYear

def Date.isValid (d : Date) : Bool :=
  1 ≤ d.month && 1 ≤ d.day && ((monthLengths d.year)[d.month - 1]?).any (d.day ≤ ·)

def Date.ofFields? (year : Int) (month day : Nat) : Option Date :=
  let d : Date := ⟨year, month, day⟩
  if d.isValid then some d else none

def monthAndDay (month rest : Nat) : List Nat → Nat × Nat
  | [] => (month, rest + 1)
  | length :: lengths =>
    if rest < length then (month, rest + 1) else monthAndDay (month + 1) (rest - length) lengths

/-- The year in which a day number falls. The guess by the mean length of a year is off by one at
most. -/
def yearOf (n : Int) : Int :=
  let guess := n * 400 / 146097 + 1
  if yearStart (guess + 1) ≤ n then guess + 1
  else if yearStart guess ≤ n then guess
  else guess - 1

def Date.ofNumber (n : Int) : Date :=
  let year := yearOf n
  let (month, day) := monthAndDay 1 (n - yearStart year).toNat (monthLengths year)
  ⟨year, month, day⟩

def Date.weekday (d : Date) : Nat :=
  ((d.number + 1) % 7).toNat

def secondOfDay? (hour minute second : Nat) : Option Nat :=
  if hour < 24 ∧ minute < 60 ∧ second < 60 then some (hour * 3600 + minute * 60 + second) else none

def Moment.hour (m : Moment) : Nat := m.second / 3600

def Moment.minute (m : Moment) : Nat := m.second / 60 % 60

end TemplateCalc.Calendar
