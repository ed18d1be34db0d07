import TemplateCalc.Double.Text

/-!
Formats with conversions such as `%08X`.

A format is split into literal pieces and conversions; every conversion is applied to the same
argument. What is no conversion is copied.
-/

set_option autoImplicit false

namespace TemplateCalc.Printf

inductive Arg where
  | int (n : Int64)
  | real (x : Float)
  | str (s : String)

structure Spec where
  left : Bool := false
  plus : Bool := false
  space : Bool := false
  alternate : Bool := false
  zero : Bool := false
  width : Nat := 0
  precision : Option Nat := none
  letter : Char := '%'

inductive Piece where
  | literal (text : List Char)
  | conversion (spec : Spec)

/-! ### Reading formats -/

def flags (spec : Spec) : List Char → Spec × List Char
  | '-' :: cs => flags { spec with left := true } cs
  | '+' :: cs => flags { spec with plus := true } cs
  | ' ' :: cs => flags { spec with space := true } cs
  | '#' :: cs => flags { spec with alternate := true } cs
  | '0' :: cs => flags { spec with zero := true } cs
  | cs => (spec, cs)

def precision : List Char → Option Nat × List Char
  | '.' :: cs => (some (Numeral.value 10 (cs.takeWhile Char.isDigit)), cs.dropWhile Char.isDigit)
  | cs => (none, cs)

/-- What follows the marks for the size of the argument, which mean nothing here. Digits belong to
them behind an `I`. -/
def afterSize (digitsToo : Bool) : List Char → List Char
  | [] => []
  | c :: cs =>
    if ['h', 'l', 'L', 'q', 'j', 'z', 't', 'w'].contains c then afterSize false cs
    else if c == 'I' then afterSize true cs
    else if digitsToo && c.isDigit then afterSize true cs
    else c :: cs

def conversion? (cs : List Char) : Option (Spec × List Char) :=
  let (spec, cs) := flags {} cs
  let width := Numeral.value 10 (cs.takeWhile Char.isDigit)
  let (precision, cs) := precision (cs.dropWhile Char.isDigit)
  match afterSize false cs with
  | letter :: cs => some ({ spec with width, precision, letter }, cs)
  | [] => none

def intLetters : List Char := ['d', 'i', 'u', 'x', 'X', 'o', 'c']

def realLetters : List Char := ['f', 'F', 'e', 'E', 'g', 'G', 'a', 'A']

def isConversion (letter : Char) : Bool :=
  letter == 's' || intLetters.contains letter || realLetters.contains letter

def pieceOf (spec : Spec) (text : List Char) : Piece :=
  if spec.letter == '%' then .literal ['%']
  else if isConversion spec.letter then .conversion spec
  else .literal text

def pieces : (fuel : Nat) → List Char → List Piece
  | 0, _ => []
  | _ + 1, [] => []
  | fuel + 1, '%' :: cs =>
    match conversion? cs with
    | some (spec, rest) =>
      pieceOf spec ('%' :: cs.take (cs.length - rest.length)) :: pieces fuel rest
    | none => [.literal ('%' :: cs)]
  | fuel + 1, c :: cs => .literal [c] :: pieces fuel cs

/-! ### Padding -/

/-- Justifies a text within the width. Zeros, if they are wanted and `zeros` allows them, go between
the sign and the body. -/
def Spec.justify (spec : Spec) (sign body : List Char) (zeros : Bool) : List Char :=
  let fill := spec.width - (sign.length + body.length)
  if spec.left then sign ++ body ++ List.replicate fill ' '
  else if spec.zero && zeros then sign ++ List.replicate fill '0' ++ body
  else List.replicate fill ' ' ++ sign ++ body

def Spec.sign (spec : Spec) (negative : Bool) : List Char :=
  if negative then ['-'] else if spec.plus then ['+'] else if spec.space then [' '] else []

/-! ### Integers -/

def Arg.toInt : Arg → Int64
  | .int n => n
  | .real x => x.toInt64
  | .str _ => 0

def characterOf (n : Int64) : Char :=
  if n.toInt.toNat.isValidChar ∧ n ≥ 0 then Char.ofNat n.toInt.toNat else '?'

def Spec.digits (spec : Spec) (n : Int64) : List Char :=
  match spec.letter with
  | 'd' | 'i' => Nat.toDigits 10 n.toInt.natAbs
  | 'u' => Nat.toDigits 10 n.toUInt64.toNat
  | 'x' => Nat.toDigits 16 n.toUInt64.toNat
  | 'X' => (Nat.toDigits 16 n.toUInt64.toNat).map Char.toUpper
  | _ => Nat.toDigits 8 n.toUInt64.toNat

/-- Digits filled up with zeros to the precision; zero with precision 0 has none. -/
def Spec.precise (spec : Spec) (n : Int64) (digits : List Char) : List Char :=
  match spec.precision with
  | none => digits
  | some p => if p = 0 ∧ n = 0 then [] else List.replicate (p - digits.length) '0' ++ digits

def Spec.int (spec : Spec) (n : Int64) : List Char :=
  if spec.letter == 'c' then spec.justify [] [characterOf n] false
  else
    let digits := spec.precise n (spec.digits n)
    let signed := spec.letter == 'd' || spec.letter == 'i'
    let sign := if signed then spec.sign (n < 0) else []
    let marked := spec.alternate && n != 0
    let (sign, digits) :=
      match marked, spec.letter with
      | true, 'x' => (['0', 'x'], digits)
      | true, 'X' => (['0', 'X'], digits)
      | true, 'o' => if digits.head? == some '0' then (sign, digits) else (sign, '0' :: digits)
      | _, _ => (sign, digits)
    spec.justify sign digits spec.precision.isNone

/-! ### Reals -/

def Arg.toReal : Arg → Float
  | .int n => n.toFloat
  | .real x => x
  | .str _ => 0.0

def scientific (m : Double.Magnitude) (places : Nat) : List Char :=
  let s := Double.significant m places
  let exponent := Double.mantissaExponent (places + 1) s
  (Double.mantissa (places + 1) s).toList ++
    'e' :: (if exponent < 0 then '-' else '+') :: Numeral.text 10 2 exponent.natAbs

def withoutZeros (digits : List Char) : List Char :=
  if digits.contains '.' then
    ((digits.reverse.dropWhile (· == '0')).dropWhile (· == '.')).reverse
  else digits

/-- The general form: scientific for small and large exponents and positional otherwise, without
trailing zeros unless `alternate` is set. -/
def general (m : Double.Magnitude) (precision : Nat) (alternate : Bool) : List Char :=
  let p := max precision 1
  let exponent := Double.mantissaExponent p (Double.significant m (p - 1))
  let text :=
    if exponent < -4 ∨ exponent ≥ p then scientific m (p - 1)
    else (Double.fixedText m ((p : Int) - 1 - exponent).toNat).toList
  if alternate then text
  else
    let digits := text.takeWhile (· != 'e')
    withoutZeros digits ++ text.drop digits.length

def fractionDigits : Nat := 13

/-- The leading digit, and the first `count` hexadecimal digits of a fraction rounded to them. A half
goes to the even neighbour; a carry out of the digits raises the leading one. -/
def roundFraction (lead fraction count : Nat) : Nat × Nat :=
  let unit := Nat.pow 16 (fractionDigits - count)
  let kept := fraction / unit
  let twice := 2 * (fraction % unit)
  if twice > unit ∨ (twice = unit ∧ kept % 2 = 1) then
    if kept + 1 = Nat.pow 16 count then (lead + 1, 0) else (lead, kept + 1)
  else (lead, kept)

def leadAndExponent (f : Double.Fields) : Nat × Int :=
  if f.biased = 0 then if f.fraction = 0 then (0, 0) else (0, -1022)
  else (1, (f.biased : Int) - 1023)

def hexadecimal (f : Double.Fields) (precision : Option Nat) : List Char :=
  let (lead, exponent) := leadAndExponent f
  let count := precision.getD fractionDigits
  let (lead, digits) :=
    if count ≥ fractionDigits then
      (lead, Numeral.text 16 fractionDigits f.fraction ++
        List.replicate (count - fractionDigits) '0')
    else
      let (lead, kept) := roundFraction lead f.fraction count
      (lead, if count = 0 then [] else Numeral.text 16 count kept)
  let point := if digits.isEmpty then [] else ['.']
  Nat.toDigits 10 lead ++ point ++ digits ++
    'p' :: (if exponent < 0 then '-' else '+') :: Nat.toDigits 10 exponent.natAbs

def Spec.real (spec : Spec) (x : Float) : List Char :=
  let isUpper := spec.letter.isUpper
  let cased (text : List Char) : List Char := if isUpper then text.map Char.toUpper else text
  match Double.parts x with
  | .nan => spec.justify (spec.sign false) (cased ['n', 'a', 'n']) false
  | .infinite negative => spec.justify (spec.sign negative) (cased ['i', 'n', 'f']) false
  | .finite negative m =>
    let sign := spec.sign negative
    let places := spec.precision.getD 6
    cased <|
      match spec.letter.toLower with
      | 'f' => spec.justify sign (Double.fixedText m places).toList true
      | 'e' => spec.justify sign (scientific m places) true
      | 'g' => spec.justify sign (general m places spec.alternate) true
      | _ => spec.justify (sign ++ ['0', 'x']) (hexadecimal (Double.fields x) spec.precision) true

/-! ### Texts -/

def Arg.toText : Arg → String
  | .int n => Numeral.signed n.toInt
  | .real x => Double.plain x
  | .str s => s

def Spec.text (spec : Spec) (s : String) : List Char :=
  spec.justify [] (spec.precision.elim s.toList s.toList.take) false

/-! ### Formats -/

def Spec.apply (spec : Spec) (arg : Arg) : List Char :=
  if spec.letter == 's' then spec.text arg.toText
  else if intLetters.contains spec.letter then spec.int arg.toInt
  else spec.real arg.toReal

def Piece.apply (arg : Arg) : Piece → List Char
  | .literal text => text
  | .conversion spec => spec.apply arg

def format (format : String) (arg : Arg) : String :=
  String.ofList ((pieces (format.toList.length + 1) format.toList).flatMap (Piece.apply arg))

end TemplateCalc.Printf
