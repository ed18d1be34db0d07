import TemplateCalc.Double.Bits
import TemplateCalc.Numeral

/-!
Reading decimal numerals with a fraction and an exponent as doubles.
-/

set_option autoImplicit false

namespace TemplateCalc.Double

structure DecimalNumeral where
  whole : List Char
  fraction : List Char
  exponent : Int

def DecimalNumeral.toFloat (d : DecimalNumeral) : Float :=
  ofDecimal (Numeral.value 10 (d.whole ++ d.fraction)) (d.exponent - d.fraction.length)

def signedExponent (negative : Bool) (digits : List Char) : Int :=
  let n : Int := Numeral.value 10 digits
  if negative then -n else n

def leadingDigits (cs : List Char) : List Char :=
  cs.takeWhile (Numeral.isDigit 10)

/-- The exponent at the front of a text, zero if there is none: an `e`, an optional sign and at
least one digit. -/
def leadingExponent (cs : List Char) : Int :=
  match cs with
  | e :: rest =>
    if e = 'e' ∨ e = 'E' then
      match rest with
      | '-' :: digits => signedExponent true (leadingDigits digits)
      | '+' :: digits => signedExponent false (leadingDigits digits)
      | digits => signedExponent false (leadingDigits digits)
    else 0
  | [] => 0

/-- The unsigned decimal numeral at the front of a text, if there is one: digits with an optional
point behind or among them, or a point followed by digits, then an optional exponent. -/
def leadingNumeral? (cs : List Char) : Option DecimalNumeral :=
  let whole := leadingDigits cs
  let rest := cs.drop whole.length
  let (fraction, rest) :=
    match rest with
    | '.' :: tail => (leadingDigits tail, tail.drop (leadingDigits tail).length)
    | _ => ([], rest)
  if whole.isEmpty && fraction.isEmpty then none
  else some ⟨whole, fraction, leadingExponent rest⟩

def leadingSigned (cs : List Char) : Float :=
  match cs with
  | '-' :: rest => (leadingNumeral? rest).elim 0.0 fun d => -d.toFloat
  | '+' :: rest => (leadingNumeral? rest).elim 0.0 DecimalNumeral.toFloat
  | rest => (leadingNumeral? rest).elim 0.0 DecimalNumeral.toFloat

end TemplateCalc.Double
