import TemplateCalc.Grouping
import TemplateCalc.Printf
import TemplateCalc.Settings.Basic
import TemplateCalc.Value.Display

/-!
Showing values.

A format is one for `Printf`, one of the names `hex`, `bin` and `oct` for integers, a pattern for
dates, or a pair of words for truth values. An empty format stands for the one in the settings.
-/

set_option autoImplicit false

namespace TemplateCalc.Render

def invalidFormatText : String := "##Invalid format##"

/-- Words for false and true; the first one names the pair. -/
def boolWords : List (String × String) :=
  [("f", "t"), ("F", "T"), ("false", "true"), ("n", "y"), ("N", "Y"), ("no", "yes"), ("NO", "YES"),
    ("off", "on"), ("OFF", "ON"), ("0", "1")]

def bool (b : Bool) (format : String) : String :=
  match boolWords.lookup format with
  | some yes => if b then yes else format
  | none => if b then "TRUE" else "FALSE"

def groupedDecimal (n : Int64) (unsigned : Bool) (cfg : FormatOptions) : String :=
  let digits := if unsigned then Numeral.decimal n.toUInt64.toNat else Numeral.signed n.toInt
  Grouping.decimal cfg.groupChar cfg.groupSize digits

def significantBits (n : Int64) : Nat :=
  if n = 0 then 0 else n.toUInt64.toNat.log2 + 1

/-- The least number of bits in which an integer from a field of so many bytes is written. The number
is kept in 32 bits. -/
def bitWidth (n : Int64) (bytes : Nat) : Nat :=
  max (max (bytes * 8) (significantBits n)) 1 % UInt32.size

/-- An integer in a format that is not empty. The size of its field in bytes gives the least width of
the named formats. -/
def intAs (n : Int64) (format : String) (bytes : Nat) (unsigned : Bool) (cfg : FormatOptions) :
    String :=
  let word := n.toUInt64.toNat
  if format = "hex" then
    String.ofList (Grouping.fromRight ' ' 2 (Numeral.text 16 (bytes * 2) word))
  else if format = "bin" then
    Grouping.binary n (bitWidth n bytes)
  else if format = "oct" then
    Grouping.spaced (String.ofList (Numeral.text 8 ((bytes * 8 + 2) / 3) word))
  else if format.toList.contains '%' then
    Printf.format format (.int n)
  else
    groupedDecimal n unsigned cfg

def int (n : Int64) (format : String) (bytes : Nat) (unsigned : Bool) (cfg : FormatOptions) :
    String :=
  let usual :=
    if unsigned && !cfg.unsignedFormat.isEmpty then cfg.unsignedFormat else cfg.intFormat
  let format := if format.isEmpty then usual else format
  if format.isEmpty then groupedDecimal n unsigned cfg else intAs n format bytes unsigned cfg

def withPoint (point : Char) (text : String) : String :=
  text.map fun c => if c == '.' then point else c

/-- A real. Without a conversion it has the precision of a field of its size. -/
def real (x : Float) (format : String) (size : Int) (cfg : FormatOptions) : String :=
  let format := if format.isEmpty then cfg.realFormat else format
  if format.toList.contains '%' then
    withPoint cfg.decimalPoint (Printf.format format (.real x))
  else
    match Double.parts x with
    | .nan => "NaN"
    | .infinite negative => if negative then "-Inf" else "+Inf"
    | .finite _ _ =>
      withPoint cfg.decimalPoint (Printf.format (if size = 4 then "%.7g" else "%.15g") (.real x))

def date (count : Float) (format : String) (cfg : FormatOptions) : String :=
  let format := if format.isEmpty then cfg.dateFormat else format
  match Calendar.Moment.ofCount? count, Calendar.pieces? format.toList with
  | none, _ => invalidDateText
  | some _, none => invalidFormatText
  | some m, some pieces => Calendar.writeAs pieces m

def str (s : String) (format : String) (cfg : FormatOptions) : String :=
  let format := if format.isEmpty then cfg.stringFormat else format
  if format.toList.contains '%' then Printf.format format (.str s) else s

end TemplateCalc.Render

namespace TemplateCalc

/-- A value for the user. `size` is the size in bytes of the field it came from, negative if it is
not known, and `unsigned` shows integers without a sign. -/
def Value.render (v : Value) (format : String) (size : Int) (unsigned : Bool)
    (cfg : FormatOptions) : String :=
  match v with
  | .none | .blob | .struct | .array => ""
  | .bool b => Render.bool b format
  | .int n => Render.int n format size.toNat unsigned cfg
  | .real x => Render.real x format size cfg
  | .date count => Render.date count format cfg
  | .str s => Render.str s format cfg

end TemplateCalc
