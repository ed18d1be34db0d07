import TemplateCalc.Calendar.DayCount
import TemplateCalc.Numeral
import TemplateCalc.Text.Blank

/-!
Reading dates and times of day.

A date is `month/day/year`, optionally followed by blanks or a comma and a time of day; a time of day
is `hours:minutes:seconds`. Blanks around the text are ignored.

The pattern that cuts such a text takes digits of every script and the parse of its groups takes the
ASCII ones only. Here both are one pass; `moment?_eq_some_iff_matched` is why this is the same.
-/

set_option autoImplicit false

namespace TemplateCalc.Calendar

/-- A number of one to `most` digits at the front of a text, and what follows it. The digits must not
go on behind it. -/
def field? (most : Nat) (cs : List Char) : Option (Nat × List Char) :=
  let digits := cs.takeWhile (Numeral.isDigit 10)
  if digits.isEmpty || digits.length > most then none
  else some (Numeral.value 10 digits, cs.dropWhile (Numeral.isDigit 10))

def triple? (mark : Char) (lastMost : Nat) (cs : List Char) :
    Option ((Nat × Nat × Nat) × List Char) := do
  let (a, cs) ← field? 2 cs
  let (c, cs) ← cs.head?.map (·, cs.tail)
  guard (c == mark)
  let (b, cs) ← field? 2 cs
  let (d, cs) ← cs.head?.map (·, cs.tail)
  guard (d == mark)
  let (e, cs) ← field? lastMost cs
  return ((a, b, e), cs)

def timeOfDay? (cs : List Char) : Option Nat := do
  let ((hour, minute, second), rest) ← triple? ':' 2 cs
  guard rest.isEmpty
  secondOfDay? hour minute second

/-- What follows a divider between date and time: blanks, or a comma with any blanks around it. -/
def afterDivider? (cs : List Char) : Option (List Char) :=
  let rest := Text.skipBlanks cs
  match rest with
  | ',' :: rest => some (Text.skipBlanks rest)
  | _ => if rest.length < cs.length then some rest else none

def moment? (s : String) : Option Moment := do
  let ((month, day, year), rest) ← triple? '/' 4 (Text.trim s).toList
  if rest.isEmpty then
    let date ← Date.ofFields? year month day
    return ⟨date, 0, 0⟩
  else
    let rest ← afterDivider? rest
    let second ← timeOfDay? rest
    let date ← Date.ofFields? year month day
    return ⟨date, second, 0⟩

def readDate? (s : String) : Option Float :=
  (moment? s).map Moment.count

def readTime? (s : String) : Option Float :=
  (timeOfDay? (Text.trim s).toList).map fun second => Moment.count ⟨originDate, second, 0⟩

end TemplateCalc.Calendar
