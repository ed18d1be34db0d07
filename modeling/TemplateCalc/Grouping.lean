import TemplateCalc.Numeral
import TemplateCalc.Text.Blank

/-!
Digits in groups.
-/

set_option autoImplicit false

namespace TemplateCalc.Grouping

/-- Characters with a mark in front of every group of `size`, counted from the end. A size of 0 makes
no groups. -/
def fromRight (mark : Char) (size : Nat) : List Char → List Char
  | [] => []
  | c :: cs =>
    if size ≠ 0 ∧ cs ≠ [] ∧ cs.length % size = 0 then c :: mark :: fromRight mark size cs
    else c :: fromRight mark size cs

/-- The number at the front of a text with its digits in groups. Leading blanks are dropped; a sign in
front of it and what follows the digits stay as they are. -/
def leading (isDigit : Char → Bool) (mark : Char) (size : Nat) (s : String) : String :=
  let cs := Text.skipBlanks s.toList
  let signLength := if cs.head?.any (fun c => c == '+' || c == '-') then 1 else 0
  let rest := cs.drop signLength
  String.ofList
    (cs.take signLength ++ fromRight mark size (rest.takeWhile isDigit) ++ rest.dropWhile isDigit)

def decimal (mark : Char) (size : Nat) (s : String) : String :=
  leading Char.isDigit mark size s

def spaced (s : String) : String :=
  leading (Numeral.isDigit 16) ' ' 4 s

def binary (n : Int64) (count : Nat) : String :=
  let count := max 1 (min count 64)
  String.ofList (fromRight ' ' 8 (Numeral.text 2 count (n.toUInt64.toNat % Nat.pow 2 count)))

end TemplateCalc.Grouping
