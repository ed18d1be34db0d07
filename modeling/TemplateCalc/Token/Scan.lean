import TemplateCalc.Double.Read
import TemplateCalc.Error
import TemplateCalc.Text.Blank
import TemplateCalc.Text.Letter

/-!
Reading the tokens of a text.

`next` reads one token from the front of a text and gives back what follows it. `scan` reads all of
them; where the text stops being readable the row of tokens ends with the fault.
-/

set_option autoImplicit false

namespace TemplateCalc.Scan

/-- How numerals are read: the radix of those without a mark, and whether digits can be divided. In
decimal numerals the separator divides, in all others a blank. -/
structure Rules where
  radix : Nat := 10
  separator : Option Char := none

def Rules.within (radix : Nat) (separator : Option Char) : Rules :=
  ⟨max 2 (min radix 36), separator⟩

abbrev Result := Except LexicalFault (Token × List Char)

def startsWith (test : Char → Bool) (cs : List Char) : Bool :=
  cs.head?.any test

/-! ### Names -/

/-- A name and what follows it. A pair of colons joins two names. -/
def name : List Char → List Char × List Char
  | [] => ([], [])
  | ':' :: ':' :: c :: rest =>
    if Text.isNameStart c then
      let (chars, rest) := name (c :: rest)
      (':' :: ':' :: chars, rest)
    else
      ([], ':' :: ':' :: c :: rest)
  | c :: rest =>
    if Text.isNameChar c then
      let (chars, rest) := name rest
      (c :: chars, rest)
    else
      ([], c :: rest)

/-- Whether a word is a number in a radix above ten: all its characters are digits, it is no keyword
and no pair of colons follows. -/
def wordIsNumber (radix : Nat) (cs : List Char) : Bool :=
  let word := cs.takeWhile Text.isNameChar
  let rest := cs.dropWhile Text.isNameChar
  word.all (Numeral.isDigit radix) && !(rest.take 2 == [':', ':']) &&
    !isKeyword (String.ofList (word.map Char.toLower))

/-! ### Numerals -/

/-- The digits at the front of a text and what follows them. A separator between two digits is passed
over. -/
def digits (radix : Nat) (separator : Option Char) (started : Bool) :
    List Char → List Char × List Char
  | [] => ([], [])
  | c :: cs =>
    if Numeral.isDigit radix c then
      let (ds, rest) := digits radix separator true cs
      (c :: ds, rest)
    else if started && separator == some c && startsWith (Numeral.isDigit radix) cs then
      digits radix separator true cs
    else
      ([], c :: cs)

/-- The fault of a numeral that began at `start` and went wrong before `rest`. The name characters
and points that follow are part of it. -/
def invalidNumber (start rest : List Char) : LexicalFault :=
  let rest := rest.dropWhile fun c => Text.isNameChar c || c == '.'
  .invalidNumber (String.ofList (start.take (start.length - rest.length)))

def integer (radix : Nat) (ds rest : List Char) : Result :=
  match Numeral.word? radix ds with
  | some n => .ok (.int n.toInt64, rest)
  | none => .error (.tooBig (String.ofList ds))

def marked (radix : Nat) (start cs : List Char) : Result :=
  let (ds, rest) := digits radix none false cs
  if startsWith Text.isNameChar rest then .error (invalidNumber start rest)
  else
    match Numeral.word? radix ds with
    | some n => .ok (.int n.toInt64, rest)
    | none =>
      if radix = 16 then .error (.hexTooBig (String.ofList ds))
      else .error (.tooBig (String.ofList ds))

/-- The digits behind a decimal point and what follows them, if the point belongs to the numeral: a
point in front of a name is a dot operator, unless the name could be an exponent. -/
def fraction? : List Char → Option (List Char × List Char)
  | '.' :: rest =>
    if startsWith (fun c => Text.isNameStart c && c != 'e' && c != 'E') rest then none
    else some (digits 10 none false rest)
  | _ => none

def exponentSign : List Char → Bool × List Char
  | '+' :: rest => (false, rest)
  | '-' :: rest => (true, rest)
  | rest => (false, rest)

/-- The exponent of a decimal numeral and what follows it, if there is one; `false` as first part if
it has no digits. -/
def exponent? : List Char → Option (Bool × Int × List Char)
  | c :: rest =>
    if c = 'e' ∨ c = 'E' then
      let (negative, rest) := exponentSign rest
      let (ds, rest) := digits 10 none false rest
      some (!ds.isEmpty, Double.signedExponent negative ds, rest)
    else none
  | [] => none

def behindPlaces (start whole places : List Char) (isReal : Bool) (rest : List Char) : Result :=
  match exponent? rest with
  | some (false, _, rest) => .error (invalidNumber start rest)
  | some (true, exponent, rest) =>
    if startsWith Text.isNameChar rest then .error (invalidNumber start rest)
    else .ok (.real (Double.DecimalNumeral.toFloat ⟨whole, places, exponent⟩), rest)
  | none =>
    if startsWith Text.isNameChar rest then .error (invalidNumber start rest)
    else if isReal then .ok (.real (Double.DecimalNumeral.toFloat ⟨whole, places, 0⟩), rest)
    else integer 10 whole rest

def decimal (rules : Rules) (start : List Char) : Result :=
  let (whole, rest) := digits 10 rules.separator false start
  match fraction? rest with
  | some (places, rest) => behindPlaces start whole places true rest
  | none => behindPlaces start whole [] false rest

/-- A numeral in a radix other than ten. If a fraction or a decimal digit follows, it must be a
decimal real. -/
def inRadix (rules : Rules) (start : List Char) : Result :=
  let (ds, rest) := digits rules.radix (rules.separator.map fun _ => ' ') false start
  let decimalTail :=
    startsWith Char.isDigit rest || (startsWith (· == '.') rest && ds.all Char.isDigit)
  if decimalTail then
    match decimal rules start with
    | .ok (.int _, rest) => .error (invalidNumber start rest)
    | result => result
  else if startsWith Text.isNameChar rest then .error (invalidNumber start rest)
  else integer rules.radix ds rest

def unmarked (rules : Rules) (start : List Char) : Result :=
  if rules.radix = 10 then decimal rules start else inRadix rules start

/-- The radix that the character behind a leading zero stands for. In a radix that has the character
as a digit it stands for none. -/
def markRadix? (radix : Nat) (c : Char) : Option Nat :=
  if c = 'x' ∨ c = 'X' then some 16
  else if (c = 'b' ∨ c = 'B') ∧ radix ≤ 11 then some 2
  else if (c = 'o' ∨ c = 'O') ∧ radix ≤ 24 then some 8
  else none

def number (rules : Rules) (start : List Char) : Result :=
  match start with
  | '0' :: mark :: rest =>
    match markRadix? rules.radix mark with
    | some radix =>
      if startsWith (Numeral.isDigit radix) rest then marked radix start rest
      else if radix = 16 then .error (invalidNumber start rest)
      else unmarked rules start
    | none => unmarked rules start
  | _ => unmarked rules start

/-! ### Character and string constants -/

def escaped? : Char → Option Char
  | 'a' => some '\x07'
  | 'b' => some '\x08'
  | 't' => some '\t'
  | 'n' => some '\n'
  | 'v' => some '\x0b'
  | 'f' => some '\x0c'
  | 'r' => some '\r'
  | '0' => some '\x00'
  | '\\' => some '\\'
  | '"' => some '"'
  | '?' => some '?'
  | c => if c.toNat = 0x27 then some c else none

/-- The rest of a string constant behind its opening mark: the characters it stands for, and what
follows the closing mark. An unknown escape stands for its letter, and `\x` without digits for
nothing. -/
def stringTail : List Char → Option (List Char × List Char)
  | [] => none
  | '"' :: rest => some ([], rest)
  | '\\' :: 'x' :: a :: b :: rest =>
    match Numeral.digit? 16 a, Numeral.digit? 16 b with
    | some high, some low =>
      (stringTail rest).map fun (cs, r) => (Char.ofNat (16 * high + low) :: cs, r)
    | some low, none =>
      (stringTail (b :: rest)).map fun (cs, r) => (Char.ofNat low :: cs, r)
    | none, _ => stringTail (a :: b :: rest)
  | '\\' :: 'x' :: rest => stringTail rest
  | '\\' :: c :: rest => (stringTail rest).map fun (cs, r) => ((escaped? c).getD c :: cs, r)
  | ['\\'] => none
  | c :: rest => (stringTail rest).map fun (cs, r) => (c :: cs, r)

/-- A string constant behind its opening mark. Its value ends before the first NUL. -/
def string (cs : List Char) : Result :=
  match stringTail cs with
  | some (chars, rest) => .ok (.str (String.ofList (chars.takeWhile (· != '\x00'))), rest)
  | none => .error .stringNotClosed

def closeCharacter (c : Char) (cs : List Char) : Result :=
  match cs with
  | mark :: rest =>
    if mark.toNat = 0x27 then .ok (.int (Int64.ofNat c.toNat), rest)
    else .error .characterNotClosed
  | [] => .error .characterNotClosed

def character : List Char → Result
  | [] => .error .characterNotClosed
  | ['\\'] => .error .characterNotClosed
  | '\\' :: 'x' :: rest =>
    let ds := (rest.take 2).takeWhile (Numeral.isDigit 16)
    if ds.isEmpty then .error (.badEscape 'x')
    else closeCharacter (Char.ofNat (Numeral.value 16 ds)) (rest.drop ds.length)
  | '\\' :: c :: rest =>
    match escaped? c with
    | some c => closeCharacter c rest
    | none => .error (.badEscape c)
  | c :: rest => closeCharacter c rest

/-! ### Marks -/

def ifNext (c : Char) (behind other : List Char → Result) : List Char → Result
  | [] => other []
  | first :: rest => if first = c then behind rest else other (first :: rest)

def alone (token : Token) (rest : List Char) : Result :=
  .ok (token, rest)

def notBefore (first : Char) (forbidden : List Char) (op : Arith) (rest : List Char) : Result :=
  match rest with
  | c :: _ =>
    if forbidden.contains c then .error (.unexpectedPair first c)
    else .ok (.operator (.arith op), rest)
  | [] => .ok (.operator (.arith op), rest)

def orEqual (plain withEqual : Token) : List Char → Result :=
  ifNext '=' (alone withEqual) (alone plain)

def arithmetic (op : Arith) : List Char → Result :=
  orEqual (.operator (.arith op)) (.assign (some op))

def quotedName (rest : List Char) : Result :=
  if startsWith Text.isNameChar rest then
    .ok (.quoted (String.ofList (name rest).1), (name rest).2)
  else .error (.unexpected '@')

def mark (c : Char) : List Char → Result :=
  match c with
  | '"' => string
  | '@' => quotedName
  | '+' => ifNext '+' (alone (.step .increment)) (arithmetic .add)
  | '-' => ifNext '-' (alone (.step .decrement)) (arithmetic .sub)
  | '*' => arithmetic .mul
  | '/' => arithmetic .div
  | '%' => arithmetic .rem
  | '&' =>
    ifNext '&' (alone .both)
      (ifNext '=' (alone (.assign (some .bitAnd))) (notBefore '&' ['|', '^'] .bitAnd))
  | '|' =>
    ifNext '|' (alone .either)
      (ifNext '=' (alone (.assign (some .bitOr))) (notBefore '|' ['&', '^'] .bitOr))
  | '^' =>
    ifNext '=' (alone (.assign (some .bitXor))) (notBefore '^' ['&', '|', '^'] .bitXor)
  | '<' =>
    ifNext '<' (arithmetic .shiftLeft)
      (orEqual (.operator (.relation .less)) (.operator (.relation .lessEq)))
  | '>' =>
    ifNext '>' (arithmetic .shiftRight)
      (orEqual (.operator (.relation .greater)) (.operator (.relation .greaterEq)))
  | '=' => orEqual (.assign none) (.operator (.relation .equal))
  | '!' => orEqual .bang (.operator (.relation .notEqual))
  | '~' => alone .tilde
  | '?' => alone .question
  | ':' => alone .colon
  | ',' => alone .comma
  | '.' => alone .dot
  | '(' => alone .openParen
  | ')' => alone .closeParen
  | '[' => alone .openBracket
  | ']' => alone .closeBracket
  | c => if c.toNat = 0x27 then character else fun _ => .error (.unexpected c)

/-! ### Texts -/

/-- The token that starts with the character `c`, which is no blank. Behind an operand a point never
starts a number. -/
def tokenFrom (rules : Rules) (afterOperand : Bool) (c : Char) (rest : List Char) : Result :=
  if c.isDigit || (c == '.' && !afterOperand && startsWith Char.isDigit rest) then
    number rules (c :: rest)
  else if Text.isNameStart c then
    if rules.radix > 10 && wordIsNumber rules.radix (c :: rest) then number rules (c :: rest)
    else .ok (.word (String.ofList (name (c :: rest)).1), (name (c :: rest)).2)
  else
    mark c rest

def next (rules : Rules) (afterOperand : Bool) (cs : List Char) : Result :=
  match Text.skipBlanks cs with
  | [] => .ok (.finish, [])
  | c :: rest => tokenFrom rules afterOperand c rest

structure Reading where
  tokens : List Token
  fault : Option LexicalFault

def readTokens (rules : Rules) : (fuel : Nat) → (afterOperand : Bool) → List Char → Reading
  | 0, _, _ => ⟨[], none⟩
  | fuel + 1, afterOperand, cs =>
    match next rules afterOperand cs with
    | .error fault => ⟨[], some fault⟩
    | .ok (.finish, _) => ⟨[], none⟩
    | .ok (token, rest) =>
      let reading := readTokens rules fuel token.endsOperand rest
      ⟨token :: reading.tokens, reading.fault⟩

def scan (rules : Rules) (text : String) : Reading :=
  readTokens rules (text.toList.length + 1) false text.toList

end TemplateCalc.Scan
