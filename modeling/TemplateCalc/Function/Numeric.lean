import TemplateCalc.Value.Operation

/-!
Numeric functions. Integer results wrap around at 64 bits.
-/

set_option autoImplicit false

namespace TemplateCalc.Numeric

def factorial (n : Nat) : Int64 :=
  (List.range (n + 1)).foldl (fun product k => if k < 2 then product else product * Int64.ofNat k) 1

def fact (n : Int64) : Except EvalError Value :=
  if n > 99 then .error (.domain .factTooBig) else .ok (.int (factorial n.toInt.toNat))

def wrapPow (base : Int64) (n : Nat) : Int64 :=
  if n = 0 then 1
  else
    let half := wrapPow (base * base) (n / 2)
    if n % 2 = 1 then base * half else half
termination_by n
decreasing_by omega

/-- The greatest exponent that is used; larger ones count as this one. -/
def exponentBound : Nat := UInt32.size - 1

/-- The power of two integers. A negative exponent gives the power rounded towards zero, and zero for
the base zero. -/
def powInt (base exponent : Int64) : Int64 :=
  if exponent ≥ 0 then wrapPow base (min exponent.toInt.toNat exponentBound)
  else if base = 1 then 1
  else if base = -1 then if exponent % 2 = 0 then 1 else -1
  else 0

def pow (base exponent : Value) : Except EvalError Value :=
  match base, exponent with
  | .int b, .int e => .ok (.int (powInt b e))
  | _, _ =>
    let r := Float.pow (base.real?.getD 0.0) (exponent.real?.getD 0.0)
    if r.isNaN then .error (.domain .pow) else .ok (.real r)

def lowerRoot (n : Nat) : Nat → Nat
  | 0 => 0
  | r + 1 => if (r + 1) * (r + 1) ≤ n then r + 1 else lowerRoot n r

def raiseRoot (n r : Nat) : Nat :=
  if h : (r + 1) * (r + 1) ≤ n then raiseRoot n (r + 1) else r
termination_by n - r
decreasing_by
  have : r + 1 ≤ (r + 1) * (r + 1) := Nat.le_mul_of_pos_left _ (by omega)
  omega

/-- The floor of the square root, found from any estimate. -/
def rootFrom (n estimate : Nat) : Nat :=
  raiseRoot n (lowerRoot n estimate)

def isqrt (n : UInt64) : Nat :=
  rootFrom n.toNat n.toFloat.sqrt.toUInt64.toNat

def sqrt : Value → Except EvalError Value
  | .int n =>
    if n < 0 then .error (.domain .sqrtNegative) else .ok (.int (Int64.ofNat (isqrt n.toUInt64)))
  | v =>
    let x := v.real?.getD 0.0
    if x < 0.0 then .error (.domain .sqrtNegative) else .ok (.real x.sqrt)

/-- The first of the values that no later one beats, counted from the front. -/
def best {α : Type} (beats : α → α → Bool) (zero : α) : List α → α
  | [] => zero
  | a :: rest => rest.foldl (fun best x => if beats x best then x else best) a

def allInts? (args : List Value) : Option (List Int64) :=
  args.mapM Value.int?

def least (args : List Value) : Value :=
  match allInts? args with
  | some ns => .int (best (· < ·) 0 ns)
  | none => .real (best (fun x y => x < y) 0.0 (args.map fun v => v.real?.getD 0.0))

def greatest (args : List Value) : Value :=
  match allInts? args with
  | some ns => .int (best (· > ·) 0 ns)
  | none => .real (best (fun x y => x > y) 0.0 (args.map fun v => v.real?.getD 0.0))

/-- The whole part of a number, within the range of integers, or 1 and 0 for the truth values. -/
def truncate : Value → Int64
  | .int n => n
  | .real x => x.toInt64
  | .bool b => if b then 1 else 0
  | _ => 0

def abs : Value → Value
  | .int n => .int (if n < 0 then -n else n)
  | v => .real (v.real?.getD 0.0).abs

end TemplateCalc.Numeric
