import TemplateCalc.Calendar.Date
import TemplateCalc.Double.Read
import TemplateCalc.Toml.Node

/-!
The smallest parts of TOML documents: blanks, keys, strings, numbers and dates.

A reader takes what it recognises from the front of a text and gives back what follows. Only strings
in triple marks go over several lines; their reader counts them. Once the opening mark of a string is
read it has to be a string, so its readers answer with the line on which it goes wrong.
-/

set_option autoImplicit false

namespace TemplateCalc.Toml

structure Cursor where
  rest : List Char
  line : Nat

def isSpace (c : Char) : Bool :=
  c == ' ' || c == '\t'

def skipSpaces (cs : List Char) : List Char :=
  cs.dropWhile isSpace

def isVisible (c : Char) : Bool :=
  c == '\t' || (c.toNat ≥ 0x20 && c.toNat != 0x7F)

def lineBreak? : List Char → Option (List Char)
  | '\n' :: rest => some rest
  | '\r' :: '\n' :: rest => some rest
  | _ => none

/-! ### Strings -/

def literalMark : Char := Char.ofNat 0x27

def characterOf? (digits : List Char) : Option Char :=
  let n := Numeral.value 16 digits
  if digits.all (Numeral.isDigit 16) && n.isValidChar then some (Char.ofNat n) else none

def escape? : List Char → Option (Char × List Char)
  | 'b' :: rest => some ('\x08', rest)
  | 't' :: rest => some ('\t', rest)
  | 'n' :: rest => some ('\n', rest)
  | 'f' :: rest => some ('\x0c', rest)
  | 'r' :: rest => some ('\r', rest)
  | '"' :: rest => some ('"', rest)
  | '\\' :: rest => some ('\\', rest)
  | 'u' :: a :: b :: c :: d :: rest => (characterOf? [a, b, c, d]).map (·, rest)
  | 'U' :: a :: b :: c :: d :: e :: f :: g :: h :: rest =>
    (characterOf? [a, b, c, d, e, f, g, h]).map (·, rest)
  | _ => none

def escapeFault (line : Nat) : List Char → Nat
  | '\n' :: _ => line + 1
  | _ => line

def stringTail (mark : Char) (line : Nat) :
    (fuel : Nat) → List Char → Except Nat (List Char × List Char)
  | 0, _ => .error line
  | _ + 1, [] => .error line
  | fuel + 1, c :: rest =>
    if c == mark then .ok ([], rest)
    else if c == '\\' && mark == '"' then
      match escape? rest with
      | none => .error (escapeFault line rest)
      | some (c, rest) => do
        let (cs, rest) ← stringTail mark line fuel rest
        return (c :: cs, rest)
    else if isVisible c then do
      let (cs, rest) ← stringTail mark line fuel rest
      return (c :: cs, rest)
    else .error line

def skipSpaceAndLines (line : Nat) : List Char → Cursor
  | '\n' :: rest => skipSpaceAndLines (line + 1) rest
  | '\r' :: '\n' :: rest => skipSpaceAndLines (line + 1) rest
  | c :: rest => if isSpace c then skipSpaceAndLines line rest else ⟨c :: rest, line⟩
  | [] => ⟨[], line⟩

/-- The rest of a string in triple marks, or the line on which it goes wrong. Up to two marks can
stand in front of the closing ones; a backslash at the end of a line joins it with the next text. -/
def multiTail (mark : Char) : (fuel : Nat) → Cursor → Except Nat (List Char × Cursor)
  | 0, c => .error c.line
  | fuel + 1, ⟨cs, line⟩ =>
    let marks := cs.takeWhile (· == mark)
    if marks.length ≥ 3 then
      let extra := min (marks.length - 3) 2
      .ok (marks.take extra, ⟨cs.drop (extra + 3), line⟩)
    else if !marks.isEmpty then do
      let (chars, c) ← multiTail mark fuel ⟨cs.drop marks.length, line⟩
      return (marks ++ chars, c)
    else
      match lineBreak? cs, cs with
      | some rest, _ => do
        let (chars, c) ← multiTail mark fuel ⟨rest, line + 1⟩
        return ('\n' :: chars, c)
      | none, [] => .error line
      | none, c :: rest =>
        if c == '\\' && mark == '"' then
          if (lineBreak? (skipSpaces rest)).isSome then
            multiTail mark fuel (skipSpaceAndLines line rest)
          else
            match escape? rest with
            | none => .error line
            | some (c, rest) => do
              let (chars, cursor) ← multiTail mark fuel ⟨rest, line⟩
              return (c :: chars, cursor)
        else if isVisible c then do
          let (chars, cursor) ← multiTail mark fuel ⟨rest, line⟩
          return (c :: chars, cursor)
        else .error line

def startsString (cs : List Char) : Bool :=
  cs.head?.any fun c => c == '"' || c == literalMark

/-- A string of any kind where one starts, or the line on which it goes wrong. A line end right behind
the opening triple marks does not count. -/
def string (c : Cursor) : Except Nat (String × Cursor) :=
  let triple (mark : Char) : Bool := c.rest.take 3 == [mark, mark, mark]
  if triple '"' || triple literalMark then do
    let body := c.rest.drop 3
    let start : Cursor :=
      match lineBreak? body with
      | some rest => ⟨rest, c.line + 1⟩
      | none => ⟨body, c.line⟩
    let (chars, c) ← multiTail (c.rest.headD '"') (c.rest.length + 1) start
    return (String.ofList chars, c)
  else
    match c.rest with
    | mark :: rest => do
      let (chars, rest) ← stringTail mark c.line (rest.length + 1) rest
      return (String.ofList chars, ⟨rest, c.line⟩)
    | [] => .error c.line

/-! ### Keys -/

def isKeyChar (c : Char) : Bool :=
  c.isAlphanum || c == '-' || c == '_'

/-- How deep a document can go: both the brackets and braces that are open at once and the parts of a
key are fewer. -/
def depthLimit : Nat := 80

def keyPart (line : Nat) (cs : List Char) : Except Nat (Option (String × List Char)) :=
  if startsString cs then do
    let (chars, rest) ← stringTail (cs.headD '"') line (cs.length + 1) (cs.drop 1)
    return some (String.ofList chars, rest)
  else
    let chars := cs.takeWhile isKeyChar
    return if chars.isEmpty then none else some (String.ofList chars, cs.drop chars.length)

def keyParts (line : Nat) : (fuel : Nat) → List Char → Except Nat (Option (List Key × List Char))
  | 0, _ => return none
  | fuel + 1, cs => do
    match ← keyPart line (skipSpaces cs) with
    | none => return none
    | some (part, rest) =>
      match skipSpaces rest with
      | '.' :: tail =>
        match ← keyParts line fuel tail with
        | some (path, rest) => return some (⟨part, line⟩ :: path, rest)
        | none => return some ([⟨part, line⟩], '.' :: tail)
      | rest => return some ([⟨part, line⟩], rest)

/-- A key, if one starts here that does not go too deep; or the line on which a string in it goes
wrong. -/
def keyPath (c : Cursor) : Except Nat (Option (List Key × List Char)) := do
  let found ← keyParts c.line (c.rest.length + 1) c.rest
  return found.filter fun (path, _) => path.length < depthLimit

/-! ### Numbers -/

/-- Digits, between which single underscores can stand; they are left out. -/
def digits? (radix : Nat) : List Char → Option (List Char × List Char)
  | c :: '_' :: rest =>
    if Numeral.isDigit radix c then
      match digits? radix rest with
      | some (ds, rest) => some (c :: ds, rest)
      | none => some ([c], '_' :: rest)
    else none
  | c :: rest =>
    if Numeral.isDigit radix c then
      match digits? radix rest with
      | some (ds, rest) => some (c :: ds, rest)
      | none => some ([c], rest)
    else none
  | [] => none

def sign : List Char → Bool × List Char
  | '-' :: rest => (true, rest)
  | '+' :: rest => (false, rest)
  | rest => (false, rest)

/-- The digits of a decimal integer behind its sign. A leading zero stands alone. -/
def wholeDigits? (cs : List Char) : Option (List Char × List Char) :=
  match cs with
  | '0' :: rest => some (['0'], rest)
  | cs => digits? 10 cs

def integerOf? (negative : Bool) (radix : Nat) (digits : List Char) : Option Int64 :=
  let n : Int := Numeral.value radix digits
  let n := if negative then -n else n
  if Int64.minValue.toInt ≤ n ∧ n ≤ Int64.maxValue.toInt then some (Int64.ofInt n) else none

def integer? (cs : List Char) : Option (Int64 × List Char) :=
  let marked (radix : Nat) (cs : List Char) : Option (Int64 × List Char) := do
    let (ds, rest) ← digits? radix cs
    return (← integerOf? false radix ds, rest)
  match cs with
  | '0' :: 'x' :: rest => marked 16 rest
  | '0' :: 'o' :: rest => marked 8 rest
  | '0' :: 'b' :: rest => marked 2 rest
  | cs => do
    let (ds, rest) ← wholeDigits? (sign cs).2
    return (← integerOf? (sign cs).1 10 ds, rest)

def exponent? : List Char → Option (Int × List Char)
  | c :: rest =>
    if c == 'e' || c == 'E' then do
      let (ds, after) ← digits? 10 (sign rest).2
      return (Double.signedExponent (sign rest).1 ds, after)
    else none
  | [] => none

def withSign (negative : Bool) (x : Float) : Float :=
  if negative then -x else x

def decimalFloat? (cs : List Char) : Option (Float × List Char) := do
  let (negative, cs) := sign cs
  let (whole, rest) ← wholeDigits? cs
  let (fraction, exponent, rest) ←
    match rest with
    | '.' :: rest => do
      let (fraction, rest) ← digits? 10 rest
      match exponent? rest with
      | some (exponent, rest) => some (fraction, exponent, rest)
      | none => some (fraction, 0, rest)
    | rest => (exponent? rest).map fun (exponent, rest) => ([], exponent, rest)
  let x := withSign negative (Double.DecimalNumeral.toFloat ⟨whole, fraction, exponent⟩)
  guard (!(x.isInf && x > 0.0))
  return (x, rest)

def float? (cs : List Char) : Option (Float × List Char) :=
  match decimalFloat? cs with
  | some found => some found
  | none =>
    match sign cs with
    | (negative, 'i' :: 'n' :: 'f' :: rest) => some (withSign negative (1.0 / 0.0), rest)
    | (negative, 'n' :: 'a' :: 'n' :: rest) => some (withSign negative (0.0 / 0.0), rest)
    | _ => none

/-! ### Dates -/

def exactly? (count : Nat) (cs : List Char) : Option (Nat × List Char) :=
  let ds := cs.take count
  if ds.length == count && ds.all Char.isDigit then some (Numeral.value 10 ds, cs.drop count)
  else none

def after? (c : Char) : List Char → Option (List Char)
  | d :: rest => if d == c then some rest else none
  | [] => none

def afterTime? (cs : List Char) : Option (List Char) := do
  let (hour, cs) ← exactly? 2 cs
  let cs ← after? ':' cs
  let (minute, cs) ← exactly? 2 cs
  let cs ← after? ':' cs
  let (second, cs) ← exactly? 2 cs
  guard (hour < 24 && minute < 60 && second ≤ 60)
  match cs with
  | '.' :: rest =>
    let ds := rest.takeWhile Char.isDigit
    return if ds.isEmpty then cs else rest.drop ds.length
  | cs => return cs

def afterOffset (cs : List Char) : List Char :=
  match cs with
  | 'Z' :: rest | 'z' :: rest => rest
  | c :: rest =>
    let offset : Option (List Char) := do
      guard (c == '+' || c == '-')
      let (hour, rest) ← exactly? 2 rest
      let rest ← after? ':' rest
      let (minute, rest) ← exactly? 2 rest
      guard (hour < 24 && minute < 60)
      return rest
    offset.getD cs
  | [] => []

def afterDay? (cs : List Char) : Option (List Char) := do
  let (year, cs) ← exactly? 4 cs
  let cs ← after? '-' cs
  let (month, cs) ← exactly? 2 cs
  let cs ← after? '-' cs
  let (day, cs) ← exactly? 2 cs
  guard (Calendar.Date.isValid ⟨year, month, day⟩)
  return cs

def afterDatetime? (cs : List Char) : Option (List Char) :=
  match afterDay? cs with
  | some rest =>
    match rest with
    | c :: time =>
      if c == 'T' || c == 't' || c == ' ' then
        some ((afterTime? time).elim rest afterOffset)
      else some rest
    | [] => some []
  | none => afterTime? cs

end TemplateCalc.Toml
