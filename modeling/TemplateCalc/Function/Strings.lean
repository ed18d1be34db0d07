import TemplateCalc.Double.Read
import TemplateCalc.Text.Blank
import TemplateCalc.Text.Letter
import TemplateCalc.Text.Lowercase

/-!
Functions on texts. Positions and lengths count characters.
-/

set_option autoImplicit false

namespace TemplateCalc.Strings

def count (n : Int64) : Nat :=
  n.toInt.toNat

def left (s : String) (n : Nat) : String :=
  String.ofList (s.toList.take n)

def right (s : String) (n : Nat) : String :=
  let cs := s.toList
  String.ofList (cs.drop (cs.length - n))

def mid (s : String) (start : Nat) (n : Option Nat) : String :=
  let cs := s.toList.drop start
  String.ofList (n.elim cs cs.take)

/-- The position of the first character with a code; the code 0 is found behind the last one. -/
def indexOfCode? (s : String) (code : Int64) : Option Nat :=
  if code = 0 then some s.toList.length
  else if code < 0 then none
  else s.toList.findIdx? (·.toNat == code.toInt.toNat)

def indexOf? (part : List Char) : List Char → Option Nat
  | [] => if part.isEmpty then some 0 else none
  | c :: cs => if part.isPrefixOf (c :: cs) then some 0 else (indexOf? part cs).map (· + 1)

def position (found : Option Nat) : Int64 :=
  found.elim (-1) Int64.ofNat

def sign : Ordering → Int64
  | .lt => -1
  | .eq => 0
  | .gt => 1

/-- The digits at the front of a text in a radix, added up, not beyond `2 ^ 64 - 1`. Characters that
are neither letters nor numerals are passed over; a letter or numeral that is no digit of the radix
ends the number. -/
def sumDigits (radix : Nat) (total : Nat) : List Char → Nat
  | [] => total
  | c :: cs =>
    match Numeral.digit? radix c with
    | some d => sumDigits radix (min (total * radix + d) (UInt64.size - 1)) cs
    | none => if Text.isAlphanumeric c then total else sumDigits radix total cs

def saturate (n : Int) : Int64 :=
  Int64.ofInt (max Int64.minValue.toInt (min n Int64.maxValue.toInt))

/-- The integer at the front of a text, in a radix that is brought into the range 2 to 36; the radix
0 stands for 10. Blanks and one sign may precede it. -/
def leadingInteger (s : String) (radix : Nat) : Int64 :=
  let radix := if radix = 0 then 10 else max 2 (min radix 36)
  match Text.skipBlanks s.toList with
  | '-' :: cs => saturate (-(sumDigits radix 0 cs))
  | '+' :: cs => saturate (sumDigits radix 0 cs)
  | cs => saturate (sumDigits radix 0 cs)

def leadingReal (s : String) : Float :=
  Double.leadingSigned (Text.skipBlanks s.toList)

end TemplateCalc.Strings
