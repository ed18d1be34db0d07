/-!
Doubles as exact numbers.

A finite double is `significand * 2 ^ exponent` with a sign. This module takes a double apart into
these numbers and rounds a ratio of whole numbers to the nearest double, all in exact arithmetic.
-/

set_option autoImplicit false

namespace TemplateCalc.Double

/-- The magnitude `significand * 2 ^ exponent`. -/
structure Magnitude where
  significand : Nat
  exponent : Int

inductive Parts where
  | nan
  | infinite (negative : Bool)
  | finite (negative : Bool) (magnitude : Magnitude)

structure Fields where
  negative : Bool
  biased : Nat
  fraction : Nat

def fractionBound : Nat := 4503599627370496

def exponentCount : Nat := 2048

def Fields.ofBits (bits : UInt64) : Fields where
  negative := bits.toNat / (fractionBound * exponentCount) == 1
  biased := bits.toNat / fractionBound % exponentCount
  fraction := bits.toNat % fractionBound

def Fields.magnitude (f : Fields) : Magnitude :=
  if f.biased = 0 then ⟨f.fraction, -1074⟩
  else ⟨fractionBound + f.fraction, (f.biased : Int) - 1075⟩

def Fields.parts (f : Fields) : Parts :=
  if f.biased = 2047 then
    if f.fraction = 0 then .infinite f.negative else .nan
  else
    .finite f.negative f.magnitude

def fields (x : Float) : Fields :=
  Fields.ofBits x.toBits

def parts (x : Float) : Parts :=
  (fields x).parts

def Magnitude.numerator (m : Magnitude) : Nat :=
  m.significand * Nat.pow 2 m.exponent.toNat

def Magnitude.denominator (m : Magnitude) : Nat :=
  Nat.pow 2 (-m.exponent).toNat

/-- The whole number nearest to `num / den`; a half goes to the even neighbour. -/
def roundHalfEven (num den : Nat) : Nat :=
  let quotient := num / den
  let twice := 2 * (num % den)
  if twice > den ∨ (twice = den ∧ quotient % 2 = 1) then quotient + 1 else quotient

/-- The exponent of the unit in the last place of the double nearest to `num / den`. -/
def unitExponent (num den : Nat) : Int :=
  let guess : Int := (num.log2 : Int) - den.log2 - 52
  -- The guess is exact or one too large.
  let small := num * Nat.pow 2 (-guess).toNat < den * Nat.pow 2 (52 + guess.toNat)
  max (-1074) (if small then guess - 1 else guess)

/-- The bit pattern of the non-negative double nearest to `num / den`. -/
def bitsOfRatio (num den : Nat) : UInt64 :=
  if num = 0 then 0
  else
    let unit := unitExponent num den
    let significand := roundHalfEven (num * Nat.pow 2 (-unit).toNat) (den * Nat.pow 2 unit.toNat)
    let bits :=
      if significand < fractionBound then significand
      else (unit + 1075).toNat * fractionBound + (significand - fractionBound)
    UInt64.ofNat (min bits (2047 * fractionBound))

/-- The double nearest to `digits * 10 ^ exponent`. Exponents far outside the range of doubles are
not multiplied out. -/
def ofDecimal (digits : Nat) (exponent : Int) : Float :=
  let magnitude := (Nat.toDigits 10 digits).length + exponent
  let bits :=
    if digits = 0 ∨ magnitude < -400 then 0
    else if magnitude > 400 then UInt64.ofNat (2047 * fractionBound)
    else bitsOfRatio (digits * Nat.pow 10 exponent.toNat) (Nat.pow 10 (-exponent).toNat)
  Float.ofBits bits

end TemplateCalc.Double
