import TemplateCalc.Calendar.Date

/-!
Moments as day counts.

A day count has the days since the 30th of December 1899 in its whole part and the time of day in
its fraction. Before that day the whole part is negative while the fraction still runs forward from
midnight, so that -1.25 is six in the morning of the 29th.
-/

set_option autoImplicit false

namespace TemplateCalc.Calendar

def originDate : Date := ⟨1899, 12, 30⟩

def originNumber : Int := originDate.number

def millisPerDay : Int := 86400000

def secondsPerDay : Float := 86400.0

def invalidCount : Float := -1e30

def Moment.count (m : Moment) : Float :=
  let millis := ((m.date.number - originNumber) * 86400 + m.second) * 1000 + m.milli
  let days := millis.tdiv millisPerDay
  let seconds := Float.ofInt (millis.tmod millisPerDay) / 1000.0
  let (days, seconds) := if seconds < 0.0 then (days - 1, seconds + secondsPerDay) else (days, seconds)
  let fraction := seconds / secondsPerDay
  if days ≥ 0 then Float.ofInt days + fraction else Float.ofInt days - fraction

/-- The least day count with a moment, the first of January 100. -/
def leastCount : Float := -657434.0

/-- The bound of the day counts with a moment, the end of the year 9999. -/
def countBound : Float := 2958466.0

def wholeDays (count : Float) : Int :=
  if count < 0.0 then -((-count).toUInt64.toNat : Int) else count.toUInt64.toNat

/-- The nearest whole number to a double that is not negative. Halves are rounded up. -/
def nearestWhole (x : Float) : Nat :=
  let whole := x.toUInt64
  if x - whole.toFloat < 0.5 then whole.toNat else whole.toNat + 1

def Moment.ofDaysAndSeconds (days seconds : Int) : Moment :=
  let total := days * 86400 + seconds
  { date := Date.ofNumber (originNumber + total / 86400)
    second := (total % 86400).toNat
    milli := 0 }

def Moment.ofCount? (count : Float) : Option Moment :=
  if leastCount ≤ count ∧ count < countBound then
    let days := wholeDays count
    let fraction := (count - Float.ofInt days).abs
    some (.ofDaysAndSeconds days (nearestWhole (fraction * secondsPerDay)))
  else
    none

end TemplateCalc.Calendar
