/-!
Numerals: digits and whole numbers in a radix from 2 to 36.

Letters of either case are the digits from ten on. Numbers are written with small letters.
-/

set_option autoImplicit false

namespace TemplateCalc.Numeral

def digitWorth? (c : Char) : Option Nat :=
  if '0' ≤ c ∧ c ≤ '9' then some (c.toNat - '0'.toNat)
  else if 'a' ≤ c ∧ c ≤ 'z' then some (c.toNat - 'a'.toNat + 10)
  else if 'A' ≤ c ∧ c ≤ 'Z' then some (c.toNat - 'A'.toNat + 10)
  else none

def digit? (radix : Nat) (c : Char) : Option Nat :=
  (digitWorth? c).filter (· < radix)

def isDigit (radix : Nat) (c : Char) : Bool :=
  (digit? radix c).isSome

/-- The number that a row of digits denotes; what is no digit counts as zero. -/
def value (radix : Nat) (digits : List Char) : Nat :=
  digits.foldl (fun total c => total * radix + (digit? radix c).getD 0) 0

def word? (radix : Nat) (digits : List Char) : Option UInt64 :=
  let n := value radix digits
  if n < UInt64.size then some (UInt64.ofNat n) else none

def text (radix width n : Nat) : List Char :=
  let digits := Nat.toDigits radix n
  List.replicate (width - digits.length) '0' ++ digits

def decimal (n : Nat) : String :=
  String.ofList (Nat.toDigits 10 n)

def signed (n : Int) : String :=
  if n < 0 then "-" ++ decimal n.natAbs else decimal n.natAbs

end TemplateCalc.Numeral
