import TemplateCalc.Text.LetterTable

/-!
Letters and numerals of all scripts, and the characters a name is made of.

ASCII is decided by comparison and everything beyond it by the tables of `LetterTable`.
-/

set_option autoImplicit false

namespace TemplateCalc.Text

def inRanges (ranges : Array (Nat × Nat)) (n : Nat) : Bool :=
  ranges.any fun (first, last) => first ≤ n && n ≤ last

def isLetter (c : Char) : Bool :=
  if c.toNat < 0x80 then c.isAlpha else inRanges letterRanges c.toNat

/-- A numeral of any script, fractions and superscripts included. -/
def isNumeral (c : Char) : Bool :=
  if c.toNat < 0x80 then c.isDigit else inRanges numeralRanges c.toNat

def isAlphanumeric (c : Char) : Bool :=
  isLetter c || isNumeral c

def isNameStart (c : Char) : Bool :=
  isLetter c || c == '_'

def isNameChar (c : Char) : Bool :=
  isAlphanumeric c || c == '_'

end TemplateCalc.Text
