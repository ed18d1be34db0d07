import TemplateCalc.Calendar.Date
import TemplateCalc.Numeral

/-!
Patterns for writing moments.

In a pattern `%` and a letter stand for a part of the moment. A `-`, `_` or `0` in between changes the
padding of a single number to none, blanks or zeros.
-/

set_option autoImplicit false

namespace TemplateCalc.Calendar

inductive Pad where
  | none | blank | zero
  deriving DecidableEq, Repr

inductive NumberField where
  | year | century | yearOfCentury | isoYear | isoYearOfCentury | quarter | month | day
  | weekFromSunday | weekFromMonday | isoWeek | weekdayFromSunday | weekdayFromMonday | dayOfYear
  | hour | halfDayHour | minute | second | nanosecond | unixSeconds
  deriving DecidableEq, Repr

inductive WordField where
  | shortMonth | longMonth | shortWeekday | longWeekday | smallHalf | capitalHalf
  deriving DecidableEq, Repr

inductive Piece where
  | literal (text : String)
  | number (field : NumberField) (pad : Pad)
  | word (field : WordField)
  deriving DecidableEq, Repr

def numberField? : Char → Option (NumberField × Pad)
  | 'Y' => some (.year, .zero)
  | 'C' => some (.century, .zero)
  | 'y' => some (.yearOfCentury, .zero)
  | 'G' => some (.isoYear, .zero)
  | 'g' => some (.isoYearOfCentury, .zero)
  | 'q' => some (.quarter, .none)
  | 'm' => some (.month, .zero)
  | 'd' => some (.day, .zero)
  | 'e' => some (.day, .blank)
  | 'U' => some (.weekFromSunday, .zero)
  | 'W' => some (.weekFromMonday, .zero)
  | 'V' => some (.isoWeek, .zero)
  | 'w' => some (.weekdayFromSunday, .none)
  | 'u' => some (.weekdayFromMonday, .none)
  | 'j' => some (.dayOfYear, .zero)
  | 'H' => some (.hour, .zero)
  | 'k' => some (.hour, .blank)
  | 'I' => some (.halfDayHour, .zero)
  | 'l' => some (.halfDayHour, .blank)
  | 'M' => some (.minute, .zero)
  | 'S' => some (.second, .zero)
  | 'f' => some (.nanosecond, .zero)
  | 's' => some (.unixSeconds, .none)
  | _ => Option.none

/-- Pieces that a row of letters stands for, with literals in between; a letter is marked by `true`. -/
def composed (parts : List (Bool × Char)) : List Piece :=
  parts.map fun (isField, c) =>
    match isField, numberField? c with
    | true, some (field, pad) => .number field pad
    | _, _ => .literal c.toString

def slashDate : List Piece :=
  composed [(true, 'm'), (false, '/'), (true, 'd'), (false, '/'), (true, 'y')]

def dashDate : List Piece :=
  composed [(true, 'Y'), (false, '-'), (true, 'm'), (false, '-'), (true, 'd')]

def clock : List Piece :=
  composed [(true, 'H'), (false, ':'), (true, 'M'), (false, ':'), (true, 'S')]

def otherPieces? : Char → Option (List Piece)
  | 'b' | 'h' => some [.word .shortMonth]
  | 'B' => some [.word .longMonth]
  | 'a' => some [.word .shortWeekday]
  | 'A' => some [.word .longWeekday]
  | 'P' => some [.word .smallHalf]
  | 'p' => some [.word .capitalHalf]
  | 'D' | 'x' => some slashDate
  | 'F' => some dashDate
  | 'T' | 'X' => some clock
  | 'R' => some (composed [(true, 'H'), (false, ':'), (true, 'M')])
  | 'v' =>
    some (composed [(true, 'e'), (false, '-')] ++ .word .shortMonth ::
      composed [(false, '-'), (true, 'Y')])
  | 'r' =>
    some (composed [(true, 'I'), (false, ':'), (true, 'M'), (false, ':'), (true, 'S')] ++
      [.literal " ", .word .capitalHalf])
  | 'c' =>
    some ([.word .shortWeekday, .literal " ", .word .shortMonth, .literal " "] ++
      composed [(true, 'e'), (false, ' ')] ++ clock ++ composed [(false, ' '), (true, 'Y')])
  | 't' => some [.literal "\t"]
  | 'n' => some [.literal "\n"]
  | '%' => some [.literal "%"]
  | _ => none

/-- Zeros for a fraction of a second of so many digits, if that is a number of digits that can be
asked for. Moments have whole seconds. -/
def fraction? (mark : String) : Char → Option Piece
  | '3' => some (.literal (mark ++ "000"))
  | '6' => some (.literal (mark ++ "000000"))
  | '9' => some (.literal (mark ++ "000000000"))
  | _ => none

/-- The pieces of a pattern; `none` if a `%` is not followed by something known. -/
def pieces? : List Char → Option (List Piece)
  | [] => some []
  | '%' :: '.' :: 'f' :: rest => pieces? rest
  | '%' :: '.' :: n :: 'f' :: rest => do return (← fraction? "." n) :: (← pieces? rest)
  | '%' :: '3' :: 'f' :: rest => do return (← fraction? "" '3') :: (← pieces? rest)
  | '%' :: '6' :: 'f' :: rest => do return (← fraction? "" '6') :: (← pieces? rest)
  | '%' :: '9' :: 'f' :: rest => do return (← fraction? "" '9') :: (← pieces? rest)
  | '%' :: '-' :: c :: rest => do
    return .number (← numberField? c).1 .none :: (← pieces? rest)
  | '%' :: '_' :: c :: rest => do
    return .number (← numberField? c).1 .blank :: (← pieces? rest)
  | '%' :: '0' :: c :: rest => do
    return .number (← numberField? c).1 .zero :: (← pieces? rest)
  | '%' :: c :: rest =>
    match numberField? c with
    | some (field, pad) => do return .number field pad :: (← pieces? rest)
    | Option.none => do return (← otherPieces? c) ++ (← pieces? rest)
  | ['%'] => none
  | c :: rest => do return .literal c.toString :: (← pieces? rest)

def monthNames : List String :=
  ["January", "February", "March", "April", "May", "June", "July", "August", "September", "October",
    "November", "December"]

def weekdayNames : List String :=
  ["Sunday", "Monday", "Tuesday", "Wednesday", "Thursday", "Friday", "Saturday"]

def abbreviated (name : String) : String :=
  String.ofList (name.toList.take 3)

def WordField.text (m : Moment) : WordField → String
  | .longMonth => monthNames.getD (m.date.month - 1) ""
  | .shortMonth => abbreviated (monthNames.getD (m.date.month - 1) "")
  | .longWeekday => weekdayNames.getD m.date.weekday ""
  | .shortWeekday => abbreviated (weekdayNames.getD m.date.weekday "")
  | .smallHalf => if m.hour < 12 then "am" else "pm"
  | .capitalHalf => if m.hour < 12 then "AM" else "PM"

def weeksFrom (d : Date) (start : Nat) : Nat :=
  (d.dayOfYear + 7 - (d.weekday + 7 - start) % 7) / 7

/-- The week of a day counted by weeks that start on Monday and belong to the year that has their
Thursday: that year and the number of the week. -/
def Date.isoWeek (d : Date) : Int × Nat :=
  let fromMonday := (d.weekday + 6) % 7
  let thursday := Date.ofNumber (d.number - fromMonday + 3)
  (thursday.year, thursday.dayOfYear / 7 + 1)

/-- A number padded to a width, with a sign if it is negative or `forceSign` is set. -/
def padded (width : Nat) (pad : Pad) (forceSign : Bool) (n : Int) : String :=
  let sign := if n < 0 then "-" else if forceSign then "+" else ""
  let width := if forceSign then width + 1 else width
  let digits := Numeral.decimal n.natAbs
  let fill := width - (sign.length + digits.length)
  match pad with
  | .none => sign ++ digits
  | .blank => String.ofList (List.replicate fill ' ') ++ sign ++ digits
  | .zero => sign ++ String.ofList (List.replicate fill '0') ++ digits

/-- A year: four digits, with a sign outside the years 0 to 9999. -/
def yearText (pad : Pad) (year : Int) : String :=
  padded 4 pad (year < 0 || year > 9999) year

/-- A number of two digits. A number above 99 keeps its last digit as one character and the tens,
counted from the character `0`, as another. -/
def twoDigits (pad : Pad) (n : Nat) : String :=
  let ones := (Char.ofNat ('0'.toNat + n % 10)).toString
  match n / 10, pad with
  | 0, .none => ones
  | 0, .blank => " " ++ ones
  | tens, _ => (Char.ofNat ('0'.toNat + tens)).toString ++ ones

def NumberField.text (m : Moment) (pad : Pad) : NumberField → String
  | .year => yearText pad m.date.year
  | .century => twoDigits pad (m.date.year / 100).toNat
  | .yearOfCentury => twoDigits pad (m.date.year % 100).toNat
  | .isoYear => yearText pad m.date.isoWeek.1
  | .isoYearOfCentury => twoDigits pad (m.date.isoWeek.1 % 100).toNat
  | .quarter => Numeral.decimal ((m.date.month + 2) / 3)
  | .month => twoDigits pad m.date.month
  | .day => twoDigits pad m.date.day
  | .weekFromSunday => twoDigits pad (weeksFrom m.date 0)
  | .weekFromMonday => twoDigits pad (weeksFrom m.date 1)
  | .isoWeek => twoDigits pad m.date.isoWeek.2
  | .weekdayFromSunday => Numeral.decimal m.date.weekday
  | .weekdayFromMonday => Numeral.decimal (if m.date.weekday = 0 then 7 else m.date.weekday)
  | .dayOfYear => padded 3 pad false (m.date.dayOfYear + 1)
  | .hour => twoDigits pad m.hour
  | .halfDayHour => twoDigits pad (if m.hour % 12 = 0 then 12 else m.hour % 12)
  | .minute => twoDigits pad m.minute
  | .second => twoDigits pad (m.second % 60)
  | .nanosecond => padded 9 pad false (m.milli * 1000000)
  | .unixSeconds =>
    padded 9 pad false ((m.date.number - Date.number ⟨1970, 1, 1⟩) * 86400 + m.second)

def Piece.text (m : Moment) : Piece → String
  | .literal text => text
  | .number field pad => field.text m pad
  | .word field => field.text m

def writeAs (pieces : List Piece) (m : Moment) : String :=
  String.join (pieces.map (Piece.text m))

def Moment.text (m : Moment) : String :=
  writeAs (dashDate ++ .literal " " :: clock) m

end TemplateCalc.Calendar
