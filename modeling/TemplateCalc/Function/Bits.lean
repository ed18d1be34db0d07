import TemplateCalc.Value.Operation

/-!
Functions on the bits of integers.
-/

set_option autoImplicit false

namespace TemplateCalc.Bits

def clamp (n least greatest : Int64) : Int64 :=
  if n < least then least else if n > greatest then greatest else n

def bytes (v : Int64) : List UInt8 :=
  (List.range 8).map fun i => (v.toUInt64 >>> UInt64.ofNat (8 * i)).toUInt8

def ofBytes : List UInt8 → Nat
  | [] => 0
  | b :: rest => b.toNat + 256 * ofBytes rest

def wordOfBytes (list : List UInt8) : Int64 :=
  (UInt64.ofNat (ofBytes list)).toInt64

def flip (v count : Int64) : Int64 :=
  wordOfBytes ((bytes v).take (clamp count 0 8).toInt.toNat).reverse

def reverse (v count : Int64) : Int64 :=
  let count := (clamp count 0 64).toInt.toNat
  let turned := v.toUInt64.toBitVec.reverse
  (UInt64.ofBitVec (turned >>> (64 - count))).toInt64

/-- The difference of two integers. It must be within their range. -/
def difference (a b : Int64) : Except EvalError Int64 :=
  if Int64.minValue.toInt ≤ a.toInt - b.toInt ∧ a.toInt - b.toInt ≤ Int64.maxValue.toInt then
    .ok (a - b)
  else .error (.domain .overflow)

/-- The low bits of an integer. The mask of 63 bits is out of reach: it is one less than the least
integer. -/
def mask (v count : Int64) : Except EvalError Int64 :=
  if count ≥ 64 then .ok v
  else if count ≤ 0 then .ok 0
  else (difference ((1 : Int64) <<< count) 1).map (v &&& ·)

inductive Move where
  | rotateLeft | rotateRight | shiftRight
  deriving DecidableEq, Repr

/-- Moves bits within the low `size` bits of an integer. An amount above 64 counts as none; one far
below zero leaves no room for the difference that a rotation takes. -/
def move (m : Move) (v amount size : Int64) : Except EvalError Int64 := do
  let size := clamp size 0 64
  let amount := if amount > 64 then 0 else amount
  let moved ←
    match m with
    | .rotateLeft =>
      (difference size amount).map fun rest =>
        shiftLeft v amount ||| TemplateCalc.shiftRight v rest
    | .rotateRight =>
      (difference size amount).map fun rest =>
        TemplateCalc.shiftRight v amount ||| shiftLeft v rest
    | .shiftRight => .ok (TemplateCalc.shiftRight v amount)
  mask moved size

end TemplateCalc.Bits
