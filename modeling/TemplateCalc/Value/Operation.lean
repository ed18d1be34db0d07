import TemplateCalc.Error

/-!
Operations on values. Integers wrap around at 64 bits; an operation that mixes an integer and a real
works on reals.
-/

set_option autoImplicit false

namespace TemplateCalc

/-- Left shift; zero when the amount is not from 0 to 63. -/
def shiftLeft (v n : Int64) : Int64 :=
  if 0 ≤ n ∧ n < 64 then v <<< n else 0

/-- Right shift that repeats the sign; only the sign is left when the amount is not from 0 to 63. -/
def shiftRight (v n : Int64) : Int64 :=
  if 0 ≤ n ∧ n < 64 then v >>> n else if v < 0 then -1 else 0

def compareReals (x y : Float) : Option Ordering :=
  if x < y then some .lt else if x == y then some .eq else if x > y then some .gt else none

namespace Value

def onReals (op : Arith) (f : Float → Float → Float) (a b : Value) : Except EvalError Value :=
  match a.real?, b.real? with
  | some x, some y => .ok (.real (f x y))
  | _, _ => .error (.type (.operands op))

def onInts (op : Arith) (f : Int64 → Int64 → Int64) : Value → Value → Except EvalError Value
  | int a, int b => .ok (.int (f a b))
  | _, _ => .error (.type (.operands op))

def add : Value → Value → Except EvalError Value
  | int a, int b => .ok (.int (a + b))
  | str a, str b => .ok (.str (a ++ b))
  | date d, int n => .ok (.date (d + n.toFloat))
  | date d, real x => .ok (.date (d + x))
  | int n, date d => .ok (.date (d + n.toFloat))
  | real x, date d => .ok (.date (d + x))
  | a, b => onReals .add (· + ·) a b

def sub : Value → Value → Except EvalError Value
  | int a, int b => .ok (.int (a - b))
  | date a, date b => .ok (.real (a - b))
  | date d, int n => .ok (.date (d - n.toFloat))
  | date d, real x => .ok (.date (d - x))
  | a, b => onReals .sub (· - ·) a b

def mul : Value → Value → Except EvalError Value
  | int a, int b => .ok (.int (a * b))
  | a, b => onReals .mul (· * ·) a b

def div : Value → Value → Except EvalError Value
  | int a, int b => if b = 0 then .error (.domain .integerDivision) else .ok (.int (a / b))
  | a, b =>
    match a.real?, b.real? with
    | some x, some y => if y == 0.0 then .error (.domain .division) else .ok (.real (x / y))
    | _, _ => .error (.type (.operands .div))

def rem : Value → Value → Except EvalError Value
  | int a, int b => if b = 0 then .error (.domain .modulus) else .ok (.int (a % b))
  | _, _ => .error (.type (.operands .rem))

def arith : Arith → Value → Value → Except EvalError Value
  | .mul => mul
  | .div => div
  | .rem => rem
  | .add => add
  | .sub => sub
  | .shiftLeft => onInts .shiftLeft TemplateCalc.shiftLeft
  | .shiftRight => onInts .shiftRight TemplateCalc.shiftRight
  | .bitAnd => onInts .bitAnd (· &&& ·)
  | .bitXor => onInts .bitXor (· ^^^ ·)
  | .bitOr => onInts .bitOr (· ||| ·)

/-- The order of two values: texts by code point, dates by day, integers as integers and other
numbers as reals. The result is `none` for values without an order. -/
def compare : Value → Value → Except EvalError (Option Ordering)
  | str a, str b => .ok (some (Ord.compare a b))
  | date a, date b => .ok (compareReals a b)
  | int a, int b => .ok (some (if a < b then .lt else if a = b then .eq else .gt))
  | a, b =>
    match a.real?, b.real? with
    | some x, some y => .ok (compareReals x y)
    | _, _ => .error (.type .comparison)

end Value

/-- Whether a comparison holds of two values in the given order. Values without an order are only
unequal. -/
def Relation.holds (r : Relation) (order : Option Ordering) : Bool :=
  match r, order with
  | .less, some .lt => true
  | .lessEq, some .lt | .lessEq, some .eq => true
  | .greater, some .gt => true
  | .greaterEq, some .gt | .greaterEq, some .eq => true
  | .equal, some .eq => true
  | .notEqual, some .eq => false
  | .notEqual, _ => true
  | _, _ => false

def BinaryOp.apply : BinaryOp → Value → Value → Except EvalError Value
  | .arith op, a, b => a.arith op b
  | .relation r, a, b => (a.compare b).map fun order => .bool (r.holds order)

def PrefixOp.apply : PrefixOp → Value → Except EvalError Value
  | .minus, .int n => .ok (.int (-n))
  | .minus, .real x => .ok (.real (-x))
  | .plus, .int n => .ok (.int n)
  | .plus, .real x => .ok (.real x)
  | .not, .bool b => .ok (.bool (!b))
  | .bitNot, .int n => .ok (.int (~~~n))
  | op, _ => .error (.type (.prefixed op))

def Value.charAt (v : Value) (index : Int64) : Except EvalError Value :=
  match v with
  | .str s =>
    if index < 0 then .error (.symbol .stringBounds)
    else
      match s.toList[index.toInt.toNat]? with
      | some c => .ok (.int (Int64.ofNat c.toNat))
      | Option.none => .error (.symbol .stringBounds)
  | _ => .error (.symbol .notIndexable)

end TemplateCalc
