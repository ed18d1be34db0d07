import TemplateCalc.Proofs.Bytes
import TemplateCalc.Proofs.Rotation

/-!
Reversals of fields.

The low bytes or the low bits of an integer are put in the reverse order, and the others are cleared.
Doing this twice leaves the integer modulo the size of the field.
-/

set_option autoImplicit false

namespace TemplateCalc.Bits

def places (count : Int64) (most : Nat) : Nat :=
  (max 0 (min count.toInt most)).toNat

theorem places_le_most (count : Int64) (most : Nat) : places count most ≤ most := by
  unfold places
  omega

theorem clamp_eq_places (count : Int64) {most : Nat} (small : most ≤ 64) :
    (clamp count 0 (.ofNat most)).toInt.toNat = places count most := by
  have value := toInt_ofNat small
  rw [clamp, places]
  split
  · rename_i low
    have low : count.toInt < 0 := Int64.lt_iff_toInt_lt.mp low
    rw [Int64.toInt_zero]
    omega
  split
  · rename_i high
    have high : (Int64.ofNat most).toInt < count.toInt := Int64.lt_iff_toInt_lt.mp high
    omega
  · rename_i low high
    have low : (0 : Int64).toInt ≤ count.toInt := Int64.le_iff_toInt_le.mp (Int64.not_lt.mp low)
    have high : count.toInt ≤ (Int64.ofNat most).toInt :=
      Int64.le_iff_toInt_le.mp (Int64.not_lt.mp high)
    rw [Int64.toInt_zero] at low
    omega

/-! ### Bytes -/

section Bytes

variable (v count : Int64)

theorem flip_eq :
    flip v count = wordOfBytes ((bytes v).take (places count 8)).reverse := by
  rw [flip, ← clamp_eq_places count (by decide : 8 ≤ 64)]
  rfl

theorem length_field :
    ((bytes v).take (places count 8)).reverse.length = places count 8 := by
  have most := places_le_most count 8
  rw [List.length_reverse, List.length_take, length_bytes]
  omega

theorem byte_flip (i : Nat) :
    byte (flip v count) i =
      if i < places count 8 then byte v (places count 8 - 1 - i) else 0 := by
  have most := places_le_most count 8
  have length := length_field v count
  rw [flip_eq, byte_wordOfBytes (by omega)]
  by_cases inside : i < places count 8
  · have within : i < ((bytes v).take (places count 8)).length := by
      rw [List.length_reverse] at length
      omega
    have turned : places count 8 - 1 - i < places count 8 := by omega
    rw [List.getElem?_reverse within, ← List.length_reverse, length,
      List.getElem?_take_of_lt turned, getElem?_bytes v (by omega), if_pos inside]
    rfl
  · rw [List.getElem?_eq_none (by omega), if_neg inside]
    rfl

theorem flip_flip : (flip (flip v count) count).toUInt64.toNat =
    v.toUInt64.toNat % 2 ^ (8 * places count 8) := by
  have most := places_le_most count 8
  have length := length_field v count
  have shortBack : ((bytes v).take (places count 8)).reverse.length ≤ 8 := by omega
  have short : ((bytes v).take (places count 8)).length ≤ 8 := by
    rwa [List.length_reverse] at shortBack
  -- the bytes that the second reversal takes are those that the first one left
  have again : (bytes (flip v count)).take (places count 8) =
      ((bytes v).take (places count 8)).reverse := by
    have found := take_bytes_wordOfBytes shortBack
    rwa [length, ← flip_eq] at found
  rw [flip_eq, again, List.reverse_reverse, toNat_wordOfBytes short, ofBytes_take_bytes v most,
    pow_mul]
  rfl

end Bytes

/-! ### Bits -/

section Bits

variable (v count : Int64)

theorem bit_reverse (i : Nat) :
    bit (reverse v count) i =
      if i < places count 64 then bit v (places count 64 - 1 - i) else false := by
  have most := places_le_most count 64
  have turned : (reverse v count).toBitVec = v.toBitVec.reverse >>> (64 - places count 64) := by
    rw [← clamp_eq_places count (Nat.le_refl 64)]
    rfl
  rw [bit, turned, BitVec.getLsbD_ushiftRight, BitVec.getLsbD_reverse, BitVec.getMsbD_eq_getLsbD]
  split
  · rename_i inside
    have within : 64 - places count 64 + i < 64 := by omega
    have place : 64 - 1 - (64 - places count 64 + i) = places count 64 - 1 - i := by omega
    rw [decide_eq_true within, place, Bool.true_and]
    rfl
  · rename_i outside
    have beyond : ¬64 - places count 64 + i < 64 := by omega
    rw [decide_eq_false beyond, Bool.false_and]

theorem reverse_reverse : (reverse (reverse v count) count).toUInt64.toNat =
    v.toUInt64.toNat % 2 ^ places count 64 := by
  apply Nat.eq_of_testBit_eq
  intro i
  have twice : bit (reverse (reverse v count) count) i =
      (decide (i < places count 64) && bit v i) := by
    rw [bit_reverse]
    split
    · rename_i inside
      have turned : places count 64 - 1 - i < places count 64 := by omega
      have back : places count 64 - 1 - (places count 64 - 1 - i) = i := by omega
      rw [bit_reverse, if_pos turned, back, decide_eq_true inside, Bool.true_and]
    · rename_i outside
      rw [decide_eq_false outside, Bool.false_and]
  rw [Nat.testBit_mod_two_pow]
  exact twice

end Bits

/-- The low bytes, up to eight, and the low bits, up to 64, come out in the reverse order, with
nothing above them. Reversing twice leaves the integer modulo the size of the field. -/
theorem reversals_of_field (now : Float) (v count : Int64) :
    let bytes := (max 0 (min count.toInt 8)).toNat
    let bits := (max 0 (min count.toInt 64)).toNat
    let gives (f : Function) (v r : Int64) : Prop :=
      f.result? now [.int v, .int count] = some (.ok (.int r))
    (∃ r w, gives .flip v r ∧ (∀ i, byte r i = if i < bytes then byte v (bytes - 1 - i) else 0) ∧
      gives .flip r w ∧ w.toUInt64.toNat = v.toUInt64.toNat % 2 ^ (8 * bytes)) ∧
    ∃ r w, gives .reverse v r ∧ (∀ i, bit r i = if i < bits then bit v (bits - 1 - i) else false) ∧
      gives .reverse r w ∧ w.toUInt64.toNat = v.toUInt64.toNat % 2 ^ bits := by
  intro bytes bits gives
  constructor
  · exact ⟨flip v count, flip (flip v count) count, rfl, byte_flip v count, rfl, flip_flip v count⟩
  · exact ⟨reverse v count, reverse (reverse v count) count, rfl, bit_reverse v count, rfl,
      reverse_reverse v count⟩

end TemplateCalc.Bits
