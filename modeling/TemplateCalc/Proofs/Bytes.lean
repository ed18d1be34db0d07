import Mathlib.Algebra.BigOperators.Group.Finset.Basic
import Mathlib.Tactic.Ring
import TemplateCalc.Function.Bits

/-!
Rows of bytes as numbers.

A row of bytes denotes the sum of its bytes, each times a power of 256. Rows of at most eight bytes
are integers of 64 bits, read without a sign, and the bytes of such an integer are those of the row.
-/

set_option autoImplicit false

namespace TemplateCalc.Bits

def byte (v : Int64) (i : Nat) : Nat :=
  v.toUInt64.toNat / 256 ^ i % 256

/-! ### Rows -/

theorem ofBytes_append (first second : List UInt8) :
    ofBytes (first ++ second) = ofBytes first + 256 ^ first.length * ofBytes second := by
  induction first with
  | nil => rw [List.nil_append, List.length_nil, pow_zero, one_mul, ofBytes, Nat.zero_add]
  | cons b first ih =>
      rw [List.cons_append, ofBytes, ih, ofBytes, List.length_cons, pow_succ', Nat.mul_add,
        Nat.mul_assoc, Nat.add_assoc]

theorem ofBytes_lt (row : List UInt8) : ofBytes row < 256 ^ row.length := by
  induction row with
  | nil => exact Nat.one_pos
  | cons b row ih =>
      have small : b.toNat < 256 := b.toNat_lt
      rw [ofBytes, List.length_cons, pow_succ]
      omega

theorem byte_ofBytes (row : List UInt8) (i : Nat) :
    ofBytes row / 256 ^ i % 256 = (row[i]?.map UInt8.toNat).getD 0 := by
  induction row generalizing i with
  | nil => simp only [ofBytes, Nat.zero_div, Nat.zero_mod, List.getElem?_nil, Option.map_none,
      Option.getD_none]
  | cons b row ih =>
      have small : b.toNat < 256 := b.toNat_lt
      cases i with
      | zero =>
          rw [ofBytes, pow_zero, Nat.div_one, Nat.add_mul_mod_self_left, Nat.mod_eq_of_lt small]
          rfl
      | succ i =>
          have behind : (b.toNat + 256 * ofBytes row) / 256 = ofBytes row := by omega
          rw [ofBytes, pow_succ', ← Nat.div_div_eq_div_mul, behind, ih, List.getElem?_cons_succ]

/-- A row denotes the sum of its bytes, each times its power of 256. -/
theorem ofBytes_eq_sum (row : List UInt8) :
    ofBytes row =
      ∑ i ∈ Finset.range row.length, (row[i]?.map UInt8.toNat).getD 0 * 256 ^ i := by
  induction row using List.reverseRecOn with
  | nil => rfl
  | append_singleton row b ih =>
      rw [ofBytes_append, List.length_append, List.length_singleton, Finset.sum_range_succ, ih]
      congr 1
      · apply Finset.sum_congr rfl
        intro i member
        rw [List.getElem?_append_left (Finset.mem_range.mp member)]
      · rw [List.getElem?_concat_length]
        simp only [ofBytes, mul_zero, add_zero, Option.map_some, Option.getD_some]
        ring

/-! ### Integers -/

theorem toNat_wordOfBytes {row : List UInt8} (short : row.length ≤ 8) :
    (wordOfBytes row).toUInt64.toNat = ofBytes row := by
  have less : ofBytes row < 256 ^ 8 :=
    Nat.lt_of_lt_of_le (ofBytes_lt row) (Nat.pow_le_pow_right (by decide) short)
  rw [wordOfBytes, UInt64.toUInt64_toInt64, UInt64.toNat_ofNat_of_lt' less]

theorem byte_wordOfBytes {row : List UInt8} (short : row.length ≤ 8) (i : Nat) :
    byte (wordOfBytes row) i = (row[i]?.map UInt8.toNat).getD 0 := by
  rw [byte, toNat_wordOfBytes short, byte_ofBytes]

theorem length_bytes (v : Int64) : (bytes v).length = 8 :=
  rfl

theorem getElem?_bytes (v : Int64) {i : Nat} (within : i < 8) :
    (bytes v)[i]?.map UInt8.toNat = some (byte v i) := by
  have size : UInt64.size = 2 ^ 64 := rfl
  have moved : (UInt64.ofNat (8 * i)).toNat = 8 * i :=
    UInt64.toNat_ofNat_of_lt' (by omega)
  have power : 2 ^ (8 * i) = 256 ^ i := pow_mul 2 8 i
  rw [bytes, List.getElem?_map, List.getElem?_range within, Option.map_some, Option.map_some,
    UInt64.toNat_toUInt8, UInt64.toNat_shiftRight, moved, Nat.mod_eq_of_lt (by omega : 8 * i < 64),
    Nat.shiftRight_eq_div_pow, power]
  rfl

/-- The low bytes of an integer denote its remainder. -/
theorem ofBytes_take_bytes (v : Int64) {k : Nat} (within : k ≤ 8) :
    ofBytes ((bytes v).take k) = v.toUInt64.toNat % 256 ^ k := by
  induction k with
  | zero => rw [pow_zero, Nat.mod_one, List.take_zero, ofBytes]
  | succ k ih =>
      have byteThere := getElem?_bytes v (i := k) (by omega)
      obtain ⟨b, isByte, value⟩ := Option.map_eq_some_iff.mp byteThere
      rw [List.take_add_one, isByte, Option.toList_some, ofBytes_append, ih (by omega),
        List.length_take, length_bytes, Nat.min_eq_left (by omega), ofBytes, ofBytes, value,
        Nat.mod_pow_succ]
      rfl

/-- The bytes of a row are found again in the integer. -/
theorem take_bytes_wordOfBytes {row : List UInt8} (short : row.length ≤ 8) :
    (bytes (wordOfBytes row)).take row.length = row := by
  apply List.ext_getElem?
  intro i
  by_cases inside : i < row.length
  · have found := getElem?_bytes (wordOfBytes row) (i := i) (by omega)
    rw [byte_wordOfBytes short, List.getElem?_eq_getElem inside, Option.map_some,
      Option.getD_some] at found
    obtain ⟨b, isByte, value⟩ := Option.map_eq_some_iff.mp found
    rw [List.getElem?_take_of_lt inside, isByte, List.getElem?_eq_getElem inside,
      UInt8.toNat_inj.mp value]
  · rw [List.getElem?_eq_none (by rw [List.length_take]; omega),
      List.getElem?_eq_none (by omega)]

end TemplateCalc.Bits
