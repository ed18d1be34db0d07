import TemplateCalc.Value.Basic

/-!
The functions of the expression language: names, numbers of arguments and types of arguments; and
the keywords.
-/

set_option autoImplicit false

namespace TemplateCalc

inductive Function where
  | abs | min | max | fact | pow | sqrt | sin | cos | tan | asin | acos | atan | exp | log | int
  | rand
  | flip | reverse | rol | ror | asr
  | date | time | now | year | month | day | hour | minute | second
  | atoi | atof | strlen | left | right | mid | ltrim | rtrim | strchr | strstr | strcmp | stricmp
  | asc2ebc | ebc2asc
  | get | getInt | getString | getBool
  deriving DecidableEq, Repr

namespace Function

def all : List Function :=
  [abs, min, max, fact, pow, sqrt, sin, cos, tan, asin, acos, atan, exp, log, int, rand, flip,
    reverse, rol, ror, asr, date, time, now, year, month, day, hour, minute, second, atoi, atof,
    strlen, left, right, mid, ltrim, rtrim, strchr, strstr, strcmp, stricmp, asc2ebc, ebc2asc, get,
    getInt, getString, getBool]

def name : Function → String
  | abs => "abs"
  | min => "min"
  | max => "max"
  | fact => "fact"
  | pow => "pow"
  | sqrt => "sqrt"
  | sin => "sin"
  | cos => "cos"
  | tan => "tan"
  | asin => "asin"
  | acos => "acos"
  | atan => "atan"
  | exp => "exp"
  | log => "log"
  | int => "int"
  | rand => "rand"
  | flip => "flip"
  | reverse => "reverse"
  | rol => "rol"
  | ror => "ror"
  | asr => "asr"
  | date => "date"
  | time => "time"
  | now => "now"
  | year => "year"
  | month => "month"
  | day => "day"
  | hour => "hour"
  | minute => "minute"
  | second => "second"
  | atoi => "atoi"
  | atof => "atof"
  | strlen => "strlen"
  | left => "left"
  | right => "right"
  | mid => "mid"
  | ltrim => "ltrim"
  | rtrim => "rtrim"
  | strchr => "strchr"
  | strstr => "strstr"
  | strcmp => "strcmp"
  | stricmp => "stricmp"
  | asc2ebc => "asc2ebc"
  | ebc2asc => "ebc2asc"
  | get => "get"
  | getInt => "get_int"
  | getString => "get_string"
  | getBool => "get_bool"

def aliases : List (String × Function) :=
  [("getint", getInt), ("getstring", getString), ("getbool", getBool)]

def ofName? (word : String) : Option Function :=
  (all.find? (·.name == word)).or (aliases.lookup word)

/-- The least and the greatest number of arguments; `none` where there is no greatest. -/
def arity : Function → Nat × Option Nat
  | rand | now => (0, some 0)
  | min | max => (1, none)
  | pow | flip | left | right | strchr | strstr | strcmp | stricmp | get => (2, some 2)
  | reverse | getString => (1, some 2)
  | rol | ror | asr | getBool => (1, some 3)
  | mid => (2, some 3)
  | getInt => (1, some 4)
  | _ => (1, some 1)

def accepts (f : Function) (count : Nat) : Bool :=
  f.arity.1 ≤ count && f.arity.2.all (count ≤ ·)

inductive ArgumentType where
  | numeric | integer | numericOrBool | text | any
  deriving DecidableEq, Repr

def ArgumentType.admits : ArgumentType → Value → Bool
  | .numeric, v => v.isNumeric
  | .integer, .int _ => true
  | .numericOrBool, .int _ | .numericOrBool, .real _ | .numericOrBool, .bool _ => true
  | .text, .str _ => true
  | .any, _ => true
  | _, _ => false

def argumentType (f : Function) (position : Nat) : ArgumentType :=
  match f with
  | abs | min | max | pow | sqrt | sin | cos | tan | asin | acos | atan | exp | log => .numeric
  | year | month | day | hour | minute | second => .numeric
  | fact | flip | reverse | rol | ror | asr | get => .integer
  | int => .numericOrBool
  | date | time | atoi | atof | strlen | ltrim | rtrim | asc2ebc | ebc2asc => .text
  | strstr | strcmp | stricmp | getString | getBool => .text
  | mid | getInt => if position = 0 then .text else .integer
  | left | right | strchr =>
    if position = 0 then .text else if position = 1 then .integer else .any
  | rand | now => .any

/-- The ordinal of a position, third for all later ones. -/
def ordinal : Nat → String
  | 0 => "1st"
  | 1 => "2nd"
  | _ => "3rd"

def quotedName (f : Function) : String :=
  "\"" ++ f.name ++ "\""

def argumentMessage (f : Function) (position : Nat) : String :=
  let q := f.quotedName
  match f with
  | abs | min | max | pow | sqrt | sin | cos | tan | asin | acos | atan | exp | log =>
    "Parameter for " ++ q ++ " must be numeric"
  | fact => "Parameter for " ++ q ++ " must be an integer"
  | flip | get => "Parameters for " ++ q ++ " must be integers"
  | reverse =>
    if position = 0 then "First parameter for " ++ q ++ " must be an integer"
    else "Bits (2nd) parameter for " ++ q ++ " must be an integer"
  | rol | ror | asr => ordinal position ++ " parameter for " ++ q ++ " must be an integer"
  | int => "Parameter for " ++ q ++ " must be numeric or boolean"
  | date => "Parameter for " ++ q ++ " must be a date string"
  | time => "Parameter for " ++ q ++ " must be a time string"
  | year | month | day | hour | minute | second => "Parameter for " ++ q ++ " must be a number"
  | atoi | atof | strlen | ltrim | rtrim | asc2ebc | ebc2asc =>
    "Parameter for " ++ q ++ " must be a string"
  | strstr | strcmp | stricmp =>
    if position = 0 then "First parameter for " ++ q ++ " must be a string"
    else "Second parameter for " ++ q ++ " must be an string"
  | left | right | strchr =>
    if position = 0 then "First parameter for " ++ q ++ " must be a string"
    else "Second parameter for " ++ q ++ " must be an integer"
  | mid =>
    if position = 0 then "First parameter for " ++ q ++ " must be a string"
    else if position = 1 then "Second parameter for " ++ q ++ " must be an integer"
    else "Third parameter for " ++ q ++ " must be an integer"
  | getInt =>
    if position = 0 then "First parameter for " ++ q ++ " must be a string"
    else "Parameters after the prompt for " ++ q ++ " must be integers"
  | getString =>
    if position = 0 then "First parameter for " ++ q ++ " must be a string"
    else "Second parameter for " ++ q ++ " must be a string"
  | getBool =>
    if position = 0 then "First parameter for " ++ q ++ " must be a string"
    else "Button text for " ++ q ++ " must be a string"
  | rand | now => ""

def missingMessage (f : Function) (position : Nat) : String :=
  let q := f.quotedName
  match f with
  | strlen => "Expected string parameter to " ++ q
  | ltrim | rtrim => "Expected 1st parameter to " ++ q
  | pow =>
    if position = 1 then "Expected comma and 2nd parameter for " ++ q
    else "Expected " ++ ordinal position ++ " parameter to " ++ q
  | min | max =>
    if position > 0 then "Expected parameter for " ++ q
    else "Expected " ++ ordinal position ++ " parameter to " ++ q
  | _ =>
    if f.arity = (1, some 1) then "Expected parameter for " ++ q
    else "Expected " ++ ordinal position ++ " parameter to " ++ q

end Function

inductive Inquiry where
  | sizeof | addressof | string | defined
  deriving DecidableEq, Repr

def Inquiry.name : Inquiry → String
  | .sizeof => "sizeof"
  | .addressof => "addressof"
  | .string => "string"
  | .defined => "defined"

def constantWords : List String := ["true", "false", "pi"]

/-- Words kept for the control statements of templates. -/
def reservedWords : List String := ["end", "next", "index", "member"]

def Inquiry.ofName? (word : String) : Option Inquiry :=
  [sizeof, addressof, string, defined].find? (·.name == word)

def isKeyword (word : String) : Bool :=
  constantWords.contains word || (Inquiry.ofName? word).isSome || reservedWords.contains word ||
    (Function.ofName? word).isSome

end TemplateCalc
