import TemplateCalc.Double.Digits
import TemplateCalc.Numeral

/-!
Texts of doubles: the plain form of values, the form used in diagnostics, a fixed number of places,
and scientific forms.
-/

set_option autoImplicit false

namespace TemplateCalc.Double

/-- Positional text of `digits * 10 ^ exponent`, with at least `places` places behind the point and
no point when there are none. -/
def positional (places : Nat) (s : Scaled) : String :=
  let whole := s.digits * Nat.pow 10 s.exponent.toNat
  let fraction := (-s.exponent).toNat
  let digits := Numeral.text 10 (fraction + 1) whole
  let behind := digits.drop (digits.length - fraction)
  let behind := behind ++ List.replicate (places - behind.length) '0'
  let before := digits.take (digits.length - fraction)
  if behind.isEmpty then String.ofList before
  else String.ofList (before ++ '.' :: behind)

def mantissa (width : Nat) (s : Scaled) : String :=
  let digits := Numeral.text 10 width s.digits
  let tail := digits.drop 1
  String.ofList (digits.take 1 ++ if tail.isEmpty then [] else '.' :: tail)

def mantissaExponent (width : Nat) (s : Scaled) : Int :=
  s.exponent + ((Numeral.text 10 width s.digits).length - 1 : Nat)

def scientific (s : Scaled) : String :=
  mantissa 1 s ++ "e" ++ Numeral.signed (mantissaExponent 1 s)

def withSign (x : Float) (body : Magnitude → String) : String :=
  match parts x with
  | .nan => "NaN"
  | .infinite negative => if negative then "-inf" else "inf"
  | .finite negative m => (if negative then "-" else "") ++ body m

/-- The plain text of a double: the fewest digits that read back, always positional, without a point
for whole numbers. -/
def plain (x : Float) : String :=
  withSign x fun m => positional 0 (shortest m)

/-- The text of a double in diagnostics: the fewest digits that read back, with at least one place,
and scientific below a ten-thousandth and from ten thousand million million on. -/
def detailed (x : Float) : String :=
  withSign x fun m =>
    let s := shortest m
    let place := mantissaExponent 1 s
    if s.digits = 0 ∨ (-4 ≤ place ∧ place < 16) then positional 1 s else scientific s

def pointed (x : Float) : String :=
  withSign x fun m => positional 1 (shortest m)

def fixedText (m : Magnitude) (places : Nat) : String :=
  positional 0 ⟨fixed m places, -(places : Int)⟩

end TemplateCalc.Double
