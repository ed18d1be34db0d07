import TemplateCalc.Proofs.Rotation

/-!
Overflow of moves.

A rotation takes the amount from the size of the field, and a mask takes one from a power of two. The
program stops where one of these differences is out of the range of integers. The size is bounded, but
the amount is so from above only.
-/

set_option autoImplicit false

namespace TemplateCalc.Bits

theorem clamp_bounds (n : Int64) : 0 ≤ (clamp n 0 64).toInt ∧ (clamp n 0 64).toInt ≤ 64 := by
  rw [clamp]
  split
  · decide
  split
  · decide
  · rename_i low high
    exact ⟨Int64.le_iff_toInt_le.mp (Int64.not_lt.mp low),
      Int64.le_iff_toInt_le.mp (Int64.not_lt.mp high)⟩

def usedAmount (amount : Int64) : Int64 :=
  if amount > 64 then 0 else amount

theorem difference_usedAmount (size amount : Int64) :
    difference (clamp size 0 64) (usedAmount amount) =
      if 2 ^ 63 ≤ (clamp size 0 64).toInt - amount.toInt then .error (.domain .overflow)
      else .ok (clamp size 0 64 - usedAmount amount) := by
  have ⟨least, most⟩ := clamp_bounds size
  rw [difference_eq, usedAmount]
  by_cases large : amount > 64
  · have large' : 64 < amount.toInt := Int64.lt_iff_toInt_lt.mp large
    rw [if_pos large, Int64.toInt_zero, if_pos (by omega), if_neg (by omega)]
  · have small : amount.toInt ≤ 64 := Int64.le_iff_toInt_le.mp (Int64.not_lt.mp large)
    rw [if_neg large]
    by_cases outside : 2 ^ 63 ≤ (clamp size 0 64).toInt - amount.toInt
    · rw [if_pos outside, if_neg (by omega)]
    · rw [if_neg outside, if_pos (by omega)]

theorem mask_clamp (v size : Int64) :
    mask v (clamp size 0 64) =
      if clamp size 0 64 = 63 then .error (.domain .overflow)
      else .ok (lowBits (clamp size 0 64).toInt.toNat v) := by
  have ⟨least, most⟩ := clamp_bounds size
  generalize clamp size 0 64 = count at least most
  split
  · next out =>
      rw [out]
      rfl
  · next within =>
      have sized : count = Int64.ofNat count.toInt.toNat :=
        eq_ofNat (Int64.le_iff_toInt_le.mpr least)
      have other : count.toInt.toNat ≠ 63 := by
        intro same
        rw [same] at sized
        exact within sized
      have made := mask_ofNat v (by omega : count.toInt.toNat ≤ 64) other
      rw [← sized] at made
      exact made

/-- The bits that a move brings together, before those outside of the field are cut off. -/
def Move.gathered (m : Move) (v amount rest : Int64) : Int64 :=
  match m with
  | .rotateLeft => shiftLeft v amount ||| TemplateCalc.shiftRight v rest
  | .rotateRight => TemplateCalc.shiftRight v amount ||| shiftLeft v rest
  | .shiftRight => TemplateCalc.shiftRight v amount

theorem move_of_rotation {m : Move} (rotates : m ≠ .shiftRight) (v amount size : Int64) :
    move m v amount size =
      ((difference (clamp size 0 64) (usedAmount amount)).map
        (m.gathered v (usedAmount amount))).bind (mask · (clamp size 0 64)) := by
  cases m with
  | rotateLeft | rotateRight => rfl
  | shiftRight => exact absurd rfl rotates

theorem move_eq (m : Move) (v amount size : Int64) :
    move m v amount size =
      if clamp size 0 64 = 63 ∨
          m ≠ .shiftRight ∧ 2 ^ 63 ≤ (clamp size 0 64).toInt - amount.toInt then
        .error (.domain .overflow)
      else
        .ok (lowBits (clamp size 0 64).toInt.toNat
          (m.gathered v (usedAmount amount) (clamp size 0 64 - usedAmount amount))) := by
  by_cases shifts : m = .shiftRight
  · subst shifts
    simp only [ne_eq, not_true_eq_false, false_and, or_false]
    exact mask_clamp _ size
  · rw [move_of_rotation shifts, difference_usedAmount]
    by_cases outside : 2 ^ 63 ≤ (clamp size 0 64).toInt - amount.toInt
    · rw [if_pos outside, if_pos (Or.inr ⟨shifts, outside⟩)]
      rfl
    · simp only [outside, and_false, or_false, if_false]
      exact mask_clamp _ size

/-! ### The functions -/

def Move.function : Move → Function
  | .rotateLeft => .rol
  | .rotateRight => .ror
  | .shiftRight => .asr

theorem result?_move (now : Float) (m : Move) (args : List Value) :
    m.function.result? now args = some ((move m (Function.intArg args 0 0)
      (Function.intArg args 1 1) (Function.intArg args 2 64)).map .int) := by
  cases m with
  | rotateLeft => rfl
  | rotateRight => rfl
  | shiftRight => rfl

/-- A move overflows in a field of 63 bits, and a rotation also if the amount is so far below zero that
its distance from the size of the field is no integer. Every other move gives the bits of the field. -/
theorem move_overflows_iff (now : Float) (m : Move) (args : List Value) :
    let v := Function.intArg args 0 0
    let amount := Function.intArg args 1 1
    let size := clamp (Function.intArg args 2 64) 0 64
    let overflows : Prop := size = 63 ∨ m ≠ .shiftRight ∧ 2 ^ 63 ≤ size.toInt - amount.toInt
    (m.function.result? now args = some (.error (.domain .overflow)) ↔ overflows) ∧
      (¬overflows → m.function.result? now args = some (.ok (.int (lowBits size.toInt.toNat
        (m.gathered v (usedAmount amount) (size - usedAmount amount)))))) := by
  intro v amount size overflows
  rw [result?_move, move_eq]
  by_cases out : overflows
  · rw [if_pos out]
    exact ⟨iff_of_true rfl out, fun within => absurd out within⟩
  · rw [if_neg out]
    exact ⟨iff_of_false (by simp [Except.map]) out, fun _ => rfl⟩

/-- Amounts on both sides of the limit of a word. -/
theorem amounts_at_limit :
    let limit : Int64 := Int64.minValue + 64
    Function.rol.result? 0 [.int (-1), .int limit] = some (.error (.domain .overflow)) ∧
      Function.rol.result? 0 [.int (-1), .int (limit + 1)] = some (.ok (.int (-1))) := by
  intro limit
  have ⟨overflows, _⟩ := move_overflows_iff 0 .rotateLeft [.int (-1), .int limit]
  have ⟨_, gives⟩ := move_overflows_iff 0 .rotateLeft [.int (-1), .int (limit + 1)]
  have moved : lowBits 64 (Move.rotateLeft.gathered (-1) (usedAmount (limit + 1))
      (64 - usedAmount (limit + 1))) = -1 := by decide
  have given := gives (by decide)
  exact ⟨overflows.mpr (by decide),
    given.trans (congrArg (fun r => some (Except.ok (Value.int r))) moved)⟩

/-- The functions accept the least integer as an amount. -/
theorem least_amount_overflows :
    let args : List Value := [.int 1, .int Int64.minValue]
    Function.rol.accepts args.length = true ∧
      (∀ position, ∀ v ∈ args, (Function.rol.argumentType position).admits v = true) ∧
      clamp (Function.intArg args 2 64) 0 64 = 64 ∧
      (2 : Int) ^ 63 ≤ (64 : Int64).toInt - Int64.minValue.toInt ∧
      Function.rol.result? 0 args = some (.error (.domain .overflow)) := by
  intro args
  have overflow : move .rotateLeft 1 Int64.minValue 64 = .error (.domain .overflow) := by
    rw [move_eq, if_pos (.inr (by decide))]
  have result := result?_move 0 .rotateLeft args
  refine ⟨by decide, ?_, by decide, by decide,
    result.trans (congrArg (fun moved => some (moved.map Value.int)) overflow)⟩
  intro position v member
  rcases List.mem_cons.mp member with rfl | others
  · rfl
  · rw [List.mem_singleton.mp others]
    rfl

end TemplateCalc.Bits
