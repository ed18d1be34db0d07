import TemplateCalc.Double.Bits

/-!
Decimal digits of a magnitude: the fewest that read back as the same double, a fixed number of
places, or a fixed number of significant digits. Everything is exact arithmetic on whole numbers.
-/

set_option autoImplicit false

namespace TemplateCalc.Double

/-- The decimal number `digits * 10 ^ exponent`. -/
structure Scaled where
  digits : Nat
  exponent : Int
  deriving DecidableEq

def digitCount (n : Nat) : Nat :=
  (Nat.toDigits 10 n).length

/-- The greatest `k` with `10 ^ k ≤ num / den`, for a positive ratio. -/
def leadingPlace (num den : Nat) : Int :=
  if num ≥ den then (digitCount (num / den) : Int) - 1
  else -(digitCount ((den + num - 1) / num - 1) : Int)

def Scaled.strip : Nat → Scaled → Scaled
  | 0, s => s
  | fuel + 1, s =>
    if s.digits ≠ 0 ∧ s.digits % 10 = 0 then strip fuel ⟨s.digits / 10, s.exponent + 1⟩ else s

/-- The reals that round to a double: the ends are `low / den` and `high / den`, the double itself is
`mid / den`, and the ends belong to it when `closed`. -/
structure Interval where
  low : Nat
  mid : Nat
  high : Nat
  den : Nat
  closed : Bool

/-- The reals that round to a positive magnitude. At a power of two the neighbour below is only half
as far away as the one above. -/
def Magnitude.interval (m : Magnitude) : Interval :=
  let scale := Nat.pow 2 m.exponent.toNat
  let below := if m.significand = fractionBound ∧ m.exponent > -1074 then 1 else 2
  { low := (4 * m.significand - below) * scale
    mid := 4 * m.significand * scale
    high := (4 * m.significand + 2) * scale
    den := 4 * m.denominator
    closed := m.significand % 2 = 0 }

def Interval.holds (i : Interval) (place : Int) (digits : Nat) : Bool :=
  let up := digits * Nat.pow 10 place.toNat * i.den
  let down := Nat.pow 10 (-place).toNat
  if i.closed then i.low * down ≤ up && up ≤ i.high * down
  else i.low * down < up && up < i.high * down

/-- The multiple of `10 ^ place` in the interval that is nearest to its middle, of the two around
the middle; a tie goes up. -/
def Interval.neighbour? (i : Interval) (place : Int) : Option Nat :=
  let num := i.mid * Nat.pow 10 (-place).toNat
  let den := i.den * Nat.pow 10 place.toNat
  let below := num / den
  match i.holds place below, i.holds place (below + 1) with
  | true, true => some (if 2 * (num % den) ≥ den then below + 1 else below)
  | true, false => some below
  | false, true => some (below + 1)
  | false, false => none

/-- The first of the grids from `place` downwards that has a point in the interval. -/
def Interval.search (i : Interval) (fuel : Nat) (place : Int) : Scaled :=
  match i.neighbour? place, fuel with
  | some digits, _ => ⟨digits, place⟩
  | none, 0 => ⟨i.mid / i.den, 0⟩
  | none, fuel + 1 => i.search fuel (place - 1)

/-- The fewest digits that read back as the magnitude. Seventeen always do. -/
def shortest (m : Magnitude) : Scaled :=
  if m.significand = 0 then ⟨0, 0⟩
  else
    let place := leadingPlace m.numerator m.denominator
    (m.interval.search 17 place).strip 20

def fixed (m : Magnitude) (places : Nat) : Nat :=
  roundHalfEven (m.numerator * Nat.pow 10 places) m.denominator

/-- The magnitude with `count + 1` significant digits, a half going to the even neighbour. -/
def significant (m : Magnitude) (count : Nat) : Scaled :=
  if m.significand = 0 then ⟨0, -(count : Int)⟩
  else
    let place := leadingPlace m.numerator m.denominator - count
    let digits :=
      roundHalfEven (m.numerator * Nat.pow 10 (-place).toNat) (m.denominator * Nat.pow 10 place.toNat)
    if digits = Nat.pow 10 (count + 1) then ⟨Nat.pow 10 count, place + 1⟩ else ⟨digits, place⟩

end TemplateCalc.Double
