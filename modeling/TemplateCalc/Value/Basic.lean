/-!
Values of expressions.

There is no conversion between texts and numbers. `blob`, `struct` and `array` only mark a container:
what it holds is asked of the host.
-/

set_option autoImplicit false

namespace TemplateCalc

/-- A value. `none` stands for a name without a value, and a date counts days, with the time of day
in the fraction. -/
inductive Value where
  | none
  | bool (b : Bool)
  | int (n : Int64)
  | real (x : Float)
  | date (days : Float)
  | str (s : String)
  | blob
  | struct
  | array

namespace Value

def typeName : Value → String
  | none => "NONE"
  | bool _ => "BOOLEAN"
  | int _ => "INT"
  | real _ => "REAL"
  | date _ => "DATE"
  | str _ => "STRING"
  | blob => "BLOB"
  | struct => "STRUCT"
  | array => "ARRAY"

def isNone : Value → Bool
  | none => true
  | _ => false

def isNumeric : Value → Bool
  | int _ | real _ => true
  | _ => false

def isContainer : Value → Bool
  | blob | struct | array => true
  | _ => false

def int? : Value → Option Int64
  | int n => some n
  | _ => Option.none

def bool? : Value → Option Bool
  | bool b => some b
  | _ => Option.none

def real? : Value → Option Float
  | int n => some n.toFloat
  | real x => some x
  | _ => Option.none

def str? : Value → Option String
  | str s => some s
  | _ => Option.none

/-- The number of 16-bit units of a text: two for a character beyond U+FFFF. -/
def unitCount (s : String) : Nat :=
  s.toList.foldr (fun c count => (if c.toNat ≥ 0x10000 then 2 else 1) + count) 0

def storage : Value → Nat
  | bool _ => 1
  | int _ | real _ | date _ => 8
  | str s => 2 * unitCount s
  | none | blob | struct | array => 0

end Value

end TemplateCalc
