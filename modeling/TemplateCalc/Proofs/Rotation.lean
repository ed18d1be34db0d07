import Mathlib.Algebra.Ring.Int.Defs
import TemplateCalc.Function.Apply

/-!
Rotations.

Bits are moved within a field, and those that leave it come in again at its other end. One of the
two shifts that do this is the right shift that repeats the sign. An integer that is not negative
and fits in the field is therefore rotated, in fields up to the whole word. A negative one leaves
its sign behind: in the whole word, all bits above those that the right shift brings in are set.
-/

set_option autoImplicit false

namespace TemplateCalc.Bits

/-! ### Single bits -/

def bit (v : Int64) (i : Nat) : Bool :=
  v.toBitVec.getLsbD i

theorem ext_bit {v w : Int64} (same : ∀ i < 64, bit v i = bit w i) : v = w :=
  Int64.toBitVec_inj.mp (BitVec.eq_of_getLsbD_eq same)

theorem bit_of_ge (v : Int64) {i : Nat} (above : 64 ≤ i) : bit v i = false :=
  BitVec.getLsbD_of_ge v.toBitVec i above

theorem bit_sign (v : Int64) : bit v 63 = decide (v < 0) := by
  have sign : v < 0 ↔ v.toBitVec.toInt < 0 := Int64.lt_iff_toInt_lt
  rw [decide_eq_decide.mpr sign, ← BitVec.msb_eq_toInt]
  exact (BitVec.msb_eq_getLsbD_last v.toBitVec).symm

theorem bit_sign_of_nonneg {v : Int64} (nonneg : 0 ≤ v) : bit v 63 = false := by
  rw [bit_sign, decide_eq_false_iff_not, Int64.not_lt]
  exact nonneg

theorem bit_sign_of_neg {v : Int64} (negative : v < 0) : bit v 63 = true := by
  rw [bit_sign, decide_eq_true negative]

theorem bit_of_lt {v : Int64} {n : Nat} (nonneg : 0 ≤ v) (less : v.toInt < 2 ^ n) {i : Nat}
    (above : n ≤ i) : bit v i = false := by
  have sign : v.toBitVec.msb = false :=
    (BitVec.msb_eq_getLsbD_last v.toBitVec).trans (bit_sign_of_nonneg nonneg)
  have whole : (v.toBitVec.toNat : Int) = v.toInt := (BitVec.toInt_eq_toNat_of_msb sign).symm
  have less' : v.toBitVec.toNat < 2 ^ n := by
    rw [← whole] at less
    exact_mod_cast less
  exact Nat.testBit_lt_two_pow (Nat.lt_of_lt_of_le less' (Nat.pow_le_pow_right (by decide) above))

theorem bit_or (v w : Int64) (i : Nat) : bit (v ||| w) i = (bit v i || bit w i) := by
  rw [bit, Int64.toBitVec_or, BitVec.getLsbD_or]
  rfl

theorem bit_minusOne (i : Nat) : bit (-1) i = decide (i < 64) :=
  BitVec.getLsbD_allOnes

/-! ### Shifts and masks -/

theorem eq_ofNat {n : Int64} (nonneg : 0 ≤ n) : n = Int64.ofNat n.toInt.toNat :=
  (Int64.ofNat_toNatClampNeg n nonneg).symm

theorem toInt_ofNat {k : Nat} (small : k ≤ 64) : (Int64.ofNat k).toInt = k :=
  Int64.toInt_ofNat_of_lt (by omega)

theorem ofNat_within {k : Nat} (small : k < 64) : 0 ≤ Int64.ofNat k ∧ Int64.ofNat k < 64 := by
  have value := toInt_ofNat (Nat.le_of_lt small)
  have less : (k : Int) < 64 := by omega
  rw [Int64.le_iff_toInt_le, Int64.lt_iff_toInt_lt, value]
  exact ⟨Int.natCast_nonneg k, less⟩

theorem places_ofNat {k : Nat} (small : k < 64) :
    ((Int64.ofNat k).toBitVec.smod 64).toNat = k := by
  have all : ∀ k < 64, ((Int64.ofNat k).toBitVec.smod 64).toNat = k := by decide
  exact all k small

theorem bit_shiftLeft (v : Int64) {k : Nat} (small : k ≤ 64) {i : Nat} (within : i < 64) :
    bit (shiftLeft v (.ofNat k)) i = (decide (k ≤ i) && bit v (i - k)) := by
  rcases Nat.lt_or_eq_of_le small with less | rfl
  · rw [shiftLeft, if_pos (ofNat_within less), bit, Int64.toBitVec_shiftLeft,
      BitVec.shiftLeft_eq', places_ofNat less, BitVec.getLsbD_shiftLeft]
    simp only [within, decide_true, Bool.true_and, ← decide_not, Nat.not_lt, bit]
  · have outside : ¬64 ≤ i := by omega
    simp only [outside, decide_false, Bool.false_and]
    exact BitVec.getLsbD_zero

theorem bit_shiftRight (v : Int64) {k : Nat} (small : k ≤ 64) {i : Nat} (within : i < 64) :
    bit (shiftRight v (.ofNat k)) i = if k + i < 64 then bit v (k + i) else bit v 63 := by
  rcases Nat.lt_or_eq_of_le small with less | rfl
  · rw [shiftRight, if_pos (ofNat_within less), bit, Int64.toBitVec_shiftRight,
      BitVec.sshiftRight_eq', places_ofNat less, BitVec.getLsbD_sshiftRight,
      BitVec.msb_eq_getLsbD_last]
    simp [within, bit]
  · have outside : ¬64 + i < 64 := by omega
    have far : ¬(0 ≤ Int64.ofNat 64 ∧ Int64.ofNat 64 < 64) := by decide
    rw [if_neg outside, shiftRight, if_neg far, bit_sign]
    by_cases negative : v < 0
    · simp [negative, bit_minusOne, within]
    · simp only [negative, if_false, decide_false]
      exact BitVec.getLsbD_zero

theorem filled_sign (v : Int64) (k : Nat) :
    (if k + 63 < 64 then bit v (k + 63) else bit v 63) = bit v 63 := by
  split
  · rename_i place
    rw [(by omega : k + 63 = 63)]
  · rfl

def lowBits (n : Nat) (v : Int64) : Int64 :=
  Int64.ofBitVec ((v.toBitVec.setWidth n).setWidth 64)

theorem bit_lowBits (n : Nat) (v : Int64) {i : Nat} (within : i < 64) :
    bit (lowBits n v) i = (decide (i < n) && bit v i) := by
  rw [bit, lowBits, Int64.toBitVec_ofBitVec, BitVec.getLsbD_setWidth, BitVec.getLsbD_setWidth,
    decide_eq_true within, Bool.true_and, bit]

theorem difference_eq (a b : Int64) : difference a b =
    if -2 ^ 63 ≤ a.toInt - b.toInt ∧ a.toInt - b.toInt < 2 ^ 63 then .ok (a - b)
    else .error (.domain .overflow) := by
  simp only [difference, Int64.toInt_minValue, Int64.toInt_maxValue, Int.le_sub_one_iff]

theorem difference_ofNat {n k : Nat} (small : n ≤ 64) (inside : k ≤ n) :
    difference (.ofNat n) (.ofNat k) = .ok (.ofNat (n - k)) := by
  rw [difference_eq, toInt_ofNat small, toInt_ofNat (Nat.le_trans inside small), if_pos (by omega),
    Int64.ofNat_sub n k inside]

theorem lowBits_zero (v : Int64) : lowBits 0 v = 0 := by
  apply ext_bit
  intro i within
  rw [bit_lowBits 0 v within]
  exact BitVec.getLsbD_zero.symm

/-- Only the mask of 63 bits cannot be made. -/
theorem mask_ofNat (v : Int64) {n : Nat} (small : n ≤ 64) (other : n ≠ 63) :
    mask v (.ofNat n) = .ok (lowBits n v) := by
  have exact : ∀ n < 63, -2 ^ 63 ≤ ((1 : Int64) <<< Int64.ofNat n).toInt - Int64.toInt 1 ∧
      ((1 : Int64) <<< Int64.ofNat n).toInt - Int64.toInt 1 < 2 ^ 63 := by decide
  have ones : ∀ n < 63,
      ((1 : Int64) <<< Int64.ofNat n - 1).toBitVec = BitVec.ofNat 64 (2 ^ n - 1) := by decide
  rcases Nat.lt_or_eq_of_le small with less | rfl
  · have less' : n < 63 := by omega
    rcases Nat.eq_zero_or_pos n with rfl | positive
    · rw [lowBits_zero]
      rfl
    have ⟨_, below⟩ := ofNat_within less
    have above : ¬Int64.ofNat n ≤ 0 := by
      rw [Int64.le_iff_toInt_le, toInt_ofNat small]
      show ¬(n : Int) ≤ 0
      omega
    rw [mask, if_neg (Int64.not_le.mpr below), if_neg above, difference_eq, if_pos (exact n less')]
    refine congrArg Except.ok (ext_bit fun i within => ?_)
    rw [bit_lowBits n v within, bit, Int64.toBitVec_and, ones n less', BitVec.getLsbD_and,
      BitVec.getLsbD_ofNat, Nat.testBit_two_pow_sub_one, decide_eq_true within, Bool.true_and,
      Bool.and_comm, bit]
  · refine congrArg Except.ok (ext_bit fun i within => ?_)
    rw [bit_lowBits 64 v within, decide_eq_true within, Bool.true_and]

theorem clamp_ofNat {n : Nat} (small : n ≤ 64) : clamp (.ofNat n) 0 64 = .ofNat n := by
  have all : ∀ n ≤ 64, clamp (.ofNat n) 0 64 = .ofNat n := by decide
  exact all n small

theorem not_above {k : Nat} (small : k ≤ 64) : ¬Int64.ofNat k > 64 := by
  have all : ∀ k ≤ 64, ¬Int64.ofNat k > 64 := by decide
  exact all k small

/-! ### Moves within a field -/

def turned (n : Nat) (v : Int64) (k : Nat) : Int64 :=
  lowBits n (shiftLeft v (.ofNat k) ||| shiftRight v (.ofNat (n - k)))

section Field

variable (v : Int64) {n k : Nat} (small : n ≤ 64) (inside : k ≤ n)
include small inside

theorem move_rotateLeft (other : n ≠ 63) :
    move .rotateLeft v (.ofNat k) (.ofNat n) = .ok (turned n v k) := by
  rw [move, clamp_ofNat small, if_neg (not_above (Nat.le_trans inside small))]
  simp only [difference_ofNat small inside]
  exact mask_ofNat _ small other

/-- A rotation to the right is one to the left by the remaining places. -/
theorem move_rotateRight (other : n ≠ 63) :
    move .rotateRight v (.ofNat k) (.ofNat n) = .ok (turned n v (n - k)) := by
  rw [move, clamp_ofNat small, if_neg (not_above (Nat.le_trans inside small))]
  simp only [difference_ofNat small inside]
  rw [turned, Nat.sub_sub_self inside, Int64.or_comm]
  exact mask_ofNat _ small other

theorem bit_turned {i : Nat} (within : i < 64) :
    bit (turned n v k) i =
      (decide (i < n) && (decide (k ≤ i) && bit v (i - k) ||
        if n - k + i < 64 then bit v (n - k + i) else bit v 63)) := by
  rw [turned, bit_lowBits n _ within, bit_or, bit_shiftLeft v (Nat.le_trans inside small) within,
    bit_shiftRight v (by omega) within]

end Field

/-! ### Rotations of a field -/

def rotatedLeft (size : Nat) (v : Int64) (k : Nat) : Int64 :=
  Int64.ofBitVec (((v.toBitVec.setWidth size).rotateLeft k).setWidth 64)

def rotatedRight (size : Nat) (v : Int64) (k : Nat) : Int64 :=
  Int64.ofBitVec (((v.toBitVec.setWidth size).rotateRight k).setWidth 64)

theorem within_rotatedLeft {n : Nat} (v : Int64) (k : Nat) (narrow : n < 64) :
    0 ≤ rotatedLeft n v k ∧ (rotatedLeft n v k).toInt < 2 ^ n := by
  generalize turned : (v.toBitVec.setWidth n).rotateLeft k = x
  have less := x.isLt
  have room : 2 ^ n * 2 ≤ 2 ^ 64 := Nat.pow_le_pow_right (by decide : 0 < 2) narrow
  have widened : (x.setWidth 64).toNat = x.toNat := by
    rw [BitVec.toNat_setWidth, Nat.mod_eq_of_lt (by omega)]
  have value : (rotatedLeft n v k).toInt = x.toNat := by
    rw [rotatedLeft, turned, ← widened]
    exact BitVec.toInt_eq_toNat_of_lt (x := x.setWidth 64) (by omega)
  rw [Int64.le_iff_toInt_le, value]
  exact ⟨Int.natCast_nonneg _, by exact_mod_cast less⟩

section Field

variable {v : Int64} {n k : Nat} (small : n ≤ 64) (inside : k ≤ n)
  (field : ∀ i, n ≤ i → bit v i = false)
include inside

theorem bit_rotatedLeft (v : Int64) {i : Nat} (within : i < 64) :
    bit (rotatedLeft n v k) i =
      (decide (i < n) && if k ≤ i then bit v (i - k) else bit v (n - k + i)) := by
  rw [bit, rotatedLeft, Int64.toBitVec_ofBitVec, BitVec.getLsbD_setWidth,
    BitVec.getLsbD_rotateLeft]
  simp only [BitVec.getLsbD_setWidth, within, decide_true, Bool.true_and, bit]
  rcases Nat.lt_or_eq_of_le inside with less | rfl
  · rw [Nat.mod_eq_of_lt less]
    grind
  · rw [Nat.mod_self]
    grind

theorem rotatedRight_eq_rotatedLeft (v : Int64) : rotatedRight n v k = rotatedLeft n v (n - k) := by
  apply ext_bit
  intro i within
  rw [bit_rotatedLeft (Nat.sub_le n k) v within, bit, rotatedRight, Int64.toBitVec_ofBitVec,
    BitVec.getLsbD_setWidth, BitVec.getLsbD_rotateRight]
  simp only [BitVec.getLsbD_setWidth, within, decide_true, Bool.true_and, bit]
  rcases Nat.lt_or_eq_of_le inside with less | rfl
  · rw [Nat.mod_eq_of_lt less]
    grind
  · rw [Nat.mod_self]
    grind

include small field

theorem turned_of_nonneg (nonneg : 0 ≤ v) :
    turned n v k = rotatedLeft n v k := by
  have sign := bit_sign_of_nonneg nonneg
  apply ext_bit
  intro i within
  rw [bit_turned v small inside within, bit_rotatedLeft inside v within]
  by_cases moved : k ≤ i
  · -- the right shift brings bits from outside of the field only
    have outside : bit v (n - k + i) = false := field _ (by omega)
    simp only [moved, decide_true, Bool.true_and, if_true, outside, sign, ite_self, Bool.or_false]
  · by_cases member : i < n
    · have within' : n - k + i < 64 := by omega
      simp only [moved, decide_false, Bool.false_and, Bool.false_or, if_false, if_pos within']
    · simp only [member, decide_false, Bool.false_and]

theorem rotatedLeft_back : rotatedLeft n (rotatedLeft n v k) (n - k) = v := by
  apply ext_bit
  intro i within
  have turned (j : Nat) := bit_rotatedLeft inside v (i := j)
  rw [bit_rotatedLeft (Nat.sub_le n k) _ within]
  by_cases member : i < n
  · grind
  · rw [field i (by omega)]
    simp only [member, decide_false, Bool.false_and]

end Field

/-! ### Rotations of the whole word -/

section Word

variable {v : Int64} {k : Nat} (small : k ≤ 64)
include small

theorem bit_highOnes {i : Nat} (within : i < 64) :
    bit (shiftLeft (-1) (.ofNat k)) i = decide (k ≤ i) := by
  have set : bit (-1) (i - k) = true := (bit_minusOne _).trans (decide_eq_true (by omega))
  rw [bit_shiftLeft _ small within, set, Bool.and_true]

theorem or_highOnes_eq_iff (w : Int64) :
    w ||| shiftLeft (-1) (.ofNat k) = w ↔ ∀ i < 64, k ≤ i → bit w i = true := by
  constructor
  · intro same i within above
    rw [← same, bit_or, bit_highOnes small within, decide_eq_true above, Bool.or_true]
  · intro set
    apply ext_bit
    intro i within
    rw [bit_or, bit_highOnes small within]
    by_cases above : k ≤ i
    · rw [set i within above, Bool.true_or]
    · rw [decide_eq_false above, Bool.or_false]

/-- Above the bits that come in, the right shift leaves the sign. -/
theorem turned_eq_or :
    turned 64 v k =
      rotatedLeft 64 v k ||| (if v < 0 then shiftLeft (-1) (.ofNat k) else 0) := by
  by_cases negative : v < 0
  · have sign := bit_sign_of_neg negative
    rw [if_pos negative]
    apply ext_bit
    intro i within
    rw [bit_turned v (Nat.le_refl 64) small within, bit_or, bit_highOnes small within,
      bit_rotatedLeft small v within, decide_eq_true within]
    by_cases moved : k ≤ i
    · have filled : (if 64 - k + i < 64 then bit v (64 - k + i) else bit v 63) = true := by
        rw [if_neg (by omega), sign]
      rw [filled, decide_eq_true moved, Bool.or_true, Bool.or_true, Bool.and_true]
    · have within' : 64 - k + i < 64 := by omega
      simp only [moved, decide_false, Bool.false_and, Bool.false_or, Bool.or_false, if_false,
        if_pos within']
  · rw [if_neg negative, Int64.or_zero]
    exact turned_of_nonneg (Nat.le_refl 64) small (fun i => bit_of_ge v)
      (Int64.not_lt.mp negative)

theorem turned_eq_iff :
    turned 64 v k = rotatedLeft 64 v k ↔
      0 ≤ v ∨ ∀ i < 64 - k, bit v i = true := by
  rw [turned_eq_or small]
  by_cases negative : v < 0
  · rw [if_pos negative, or_highOnes_eq_iff small, or_iff_right (Int64.not_le.mpr negative)]
    constructor
    · intro set i below
      have within : k + i < 64 := by omega
      have high := set (k + i) within (Nat.le_add_right k i)
      rw [bit_rotatedLeft small v within, if_pos (Nat.le_add_right k i), Nat.add_sub_cancel_left,
        decide_eq_true within] at high
      exact high
    · intro set i within above
      rw [bit_rotatedLeft small v within, if_pos above, set (i - k) (by omega),
        decide_eq_true within]
      rfl
  · rw [if_neg negative, Int64.or_zero]
    exact ⟨fun _ => .inl (Int64.not_lt.mp negative), fun _ => rfl⟩

theorem turned_neg (negative : v < 0) :
    turned 64 v k < 0 := by
  have top := bit_turned v (Nat.le_refl 64) small (by decide : 63 < 64)
  rw [filled_sign, bit_sign_of_neg negative, Bool.or_true, bit_sign] at top
  exact of_decide_eq_true top

/-- The sign that is left behind by one rotation fills the word in the other. -/
theorem turned_back_of_neg (negative : v < 0) :
    turned 64 (turned 64 v k) (64 - k) =
      -1 := by
  have sign := bit_sign_of_neg (turned_neg small negative)
  have high {j : Nat} (within : j < 64) (above : k ≤ j) :
      bit (turned 64 v k) j = true := by
    rw [turned_eq_or small, if_pos negative, bit_or, bit_highOnes small within,
      decide_eq_true above, Bool.or_true]
  generalize turned 64 v k = w at sign high
  apply ext_bit
  intro i within
  have filled : (if 64 - (64 - k) + i < 64 then bit w (64 - (64 - k) + i) else
      bit w 63) = true := by
    split
    · rename_i place
      exact high place (by omega)
    · exact sign
  rw [bit_turned w (Nat.le_refl 64) (Nat.sub_le 64 k) within, bit_minusOne, filled,
    Bool.or_true, Bool.and_true]

theorem turned_back_iff :
    turned 64 (turned 64 v k) (64 - k) = v ↔
      v = -1 ∨ 0 ≤ v ∧ 0 ≤ turned 64 v k := by
  have rest : 64 - k ≤ 64 := Nat.sub_le 64 k
  by_cases negative : v < 0
  · rw [turned_back_of_neg small negative]
    constructor
    · intro same
      exact .inl same.symm
    · rintro (same | ⟨nonneg, _⟩)
      · exact same.symm
      · exact absurd negative (Int64.not_lt.mpr nonneg)
  · have nonneg := Int64.not_lt.mp negative
    have notMinusOne : v ≠ -1 := by
      rintro rfl
      exact absurd nonneg (by decide)
    rw [or_iff_right notMinusOne, and_iff_right nonneg]
    constructor
    · intro same
      -- a negative integer stays negative, so what is rotated back was not
      refine Int64.not_lt.mp fun below => ?_
      have stays := turned_neg rest below
      rw [same] at stays
      exact negative stays
    · intro above
      have field := fun i => bit_of_ge v (i := i)
      rw [turned_of_nonneg (Nat.le_refl 64) rest (fun i => bit_of_ge _) above,
        turned_of_nonneg (Nat.le_refl 64) small field nonneg]
      exact rotatedLeft_back (Nat.le_refl 64) small field

end Word

/-! ### The functions -/

variable (now : Float) {v s size : Int64}

theorem places_le {n : Nat} (small : n ≤ 64) (most : s ≤ .ofNat n) : s.toInt.toNat ≤ n := by
  rw [Int64.le_iff_toInt_le, toInt_ofNat small] at most
  omega

theorem result_of_move {result : Except EvalError Int64} {r : Int64} (moved : result = .ok r) :
    some (result.map Value.int) = some (.ok (.int r)) := by
  rw [moved]
  rfl

/-- In the whole word, an integer that is not negative is rotated. A negative one leaves its sign
behind: to the left by `s` places, all bits from `s` on are set, and to the right, the highest `s`
bits; this is a rotation only if these bits come out set anyway. The way back gives the integer
again only if neither it nor the result is negative, or if it is `-1`. -/
theorem rotations_of_word (least : 0 ≤ s) (most : s ≤ 64) :
    let k := s.toInt.toNat
    let gives (f : Function) (v r : Int64) : Prop :=
      f.result? now [.int v, .int s] = some (.ok (.int r))
    ∃ l r, gives .rol v l ∧ gives .ror v r ∧
      l = rotatedLeft 64 v k ||| (if v < 0 then shiftLeft (-1) s else 0) ∧
      r = rotatedRight 64 v k ||| (if v < 0 then shiftLeft (-1) (64 - s) else 0) ∧
      (l = rotatedLeft 64 v k ↔ 0 ≤ v ∨ ∀ i < 64 - k, bit v i = true) ∧
      (r = rotatedRight 64 v k ↔ 0 ≤ v ∨ ∀ i < k, bit v i = true) ∧
      (gives .ror l v ↔ v = -1 ∨ 0 ≤ v ∧ 0 ≤ l) ∧
      (gives .rol r v ↔ v = -1 ∨ 0 ≤ v ∧ 0 ≤ r) := by
  intro k gives
  have small : k ≤ 64 := places_le (Nat.le_refl 64) most
  have rest : 64 - k ≤ 64 := Nat.sub_le 64 k
  have same : s = Int64.ofNat k := eq_ofNat least
  have left (v : Int64) : gives .rol v (turned 64 v k) := by
    have moved := move_rotateLeft v (Nat.le_refl 64) small (by decide)
    rw [← same] at moved
    exact result_of_move moved
  have right (v : Int64) : gives .ror v (turned 64 v (64 - k)) := by
    have moved := move_rotateRight v (Nat.le_refl 64) small (by decide)
    rw [← same] at moved
    exact result_of_move moved
  -- results are unique, so that each way back is an equation
  have unique {f : Function} {v x y : Int64} (found : gives f v x) : gives f v y ↔ x = y := by
    simp only [gives] at found ⊢
    rw [found, Option.some_inj, Except.ok.injEq, Value.int.injEq]
  have remaining : 64 - s = Int64.ofNat (64 - k) := by
    rw [same, Int64.ofNat_sub 64 k small]
    rfl
  have back := Nat.sub_sub_self small
  refine ⟨_, _, left v, right v, ?_, ?_, turned_eq_iff small, ?_, ?_, ?_⟩
  · rw [turned_eq_or small, same]
  · rw [turned_eq_or rest, remaining, rotatedRight_eq_rotatedLeft small]
  · rw [rotatedRight_eq_rotatedLeft small, turned_eq_iff rest, back]
  · exact (unique (right _)).trans (turned_back_iff small)
  · have undone := turned_back_iff (v := v) rest
    rw [back] at undone
    exact (unique (left _)).trans undone

/-- To the left, the bits that the sign sets come out set anyway; to the right they do not. There is
no way back from either. -/
theorem minus_five_rotated_in_word :
    let v : Int64 := -5
    let s : Int64 := 62
    let gives (f : Function) (v r : Int64) : Prop :=
      f.result? 0 [.int v, .int s] = some (.ok (.int r))
    0 ≤ s ∧ s ≤ 64 ∧ ∃ l r, gives .rol v l ∧ gives .ror v r ∧
      l = rotatedLeft 64 v 62 ∧ r ≠ rotatedRight 64 v 62 ∧ ¬gives .ror l v ∧ ¬gives .rol r v := by
  intro v s gives
  have least : 0 ≤ s := by decide
  have most : s ≤ 64 := by decide
  obtain ⟨l, r, left, right, _, _, isLeft, isRight, undoneLeft, undoneRight⟩ :=
    rotations_of_word 0 (v := v) least most
  have negative : ¬0 ≤ v := by decide
  refine ⟨least, most, l, r, left, right, isLeft.mpr (.inr (by decide)), ?_, ?_, ?_⟩
  · exact mt isRight.mp (by decide)
  · exact mt undoneLeft.mp (by simp [negative, v])
  · exact mt undoneRight.mp (by simp [negative, v])

/-- A sign that is moved to the lowest place sets all other bits. -/
theorem sign_rotated_in_word :
    Function.rol.result? 0 [.int Int64.minValue, .int 1] = some (.ok (.int (-1))) ∧
      rotatedLeft 64 Int64.minValue 1 = 1 ∧
      Function.rol.result? 0 [.int 1, .int 63] = some (.ok (.int Int64.minValue)) ∧
      Function.ror.result? 0 [.int Int64.minValue, .int 63] = some (.ok (.int (-1))) :=
  ⟨rfl, rfl, rfl, rfl⟩

/-- In a field of at most 62 bits, an integer that fits in the field is rotated: the results fit as
well, and each rotation undoes the other. -/
theorem rotations_of_field (nonneg : 0 ≤ v) (fits : v.toInt < 2 ^ size.toInt.toNat)
    (least : 0 ≤ s) (most : s ≤ size) (largest : size ≤ 62) :
    let n := size.toInt.toNat
    let k := s.toInt.toNat
    let gives (f : Function) (v r : Int64) : Prop :=
      f.result? now [.int v, .int s, .int size] = some (.ok (.int r))
    let l := rotatedLeft n v k
    let r := rotatedRight n v k
    gives .rol v l ∧ gives .ror v r ∧
      (0 ≤ l ∧ l.toInt < 2 ^ n) ∧ (0 ≤ r ∧ r.toInt < 2 ^ n) ∧
      gives .ror l v ∧ gives .rol r v := by
  intro n k gives l r
  have narrow : n ≤ 62 := places_le (by decide) largest
  have small : n ≤ 64 := by omega
  have sized : size = Int64.ofNat n := eq_ofNat (Int64.le_trans least most)
  have inside : k ≤ n := by
    rw [sized] at most
    exact places_le small most
  have places : s = Int64.ofNat k := eq_ofNat least
  have field {w : Int64} (fits : 0 ≤ w ∧ w.toInt < 2 ^ n) : ∀ i, n ≤ i → bit w i = false :=
    fun i => bit_of_lt fits.1 fits.2
  have left {w : Int64} (fits : 0 ≤ w ∧ w.toInt < 2 ^ n) : gives .rol w (rotatedLeft n w k) := by
    have moved := move_rotateLeft w small inside (by omega)
    rw [turned_of_nonneg small inside (field fits) fits.1, ← sized, ← places] at moved
    exact result_of_move moved
  have right {w : Int64} (fits : 0 ≤ w ∧ w.toInt < 2 ^ n) :
      gives .ror w (rotatedLeft n w (n - k)) := by
    have moved := move_rotateRight w small inside (by omega)
    rw [turned_of_nonneg small (Nat.sub_le n k) (field fits) fits.1, ← sized, ← places] at moved
    exact result_of_move moved
  have fitsLeft := within_rotatedLeft v k (by omega : n < 64)
  -- a turn to the right is one to the left by the rest of the field
  have turn : r = rotatedLeft n v (n - k) := rotatedRight_eq_rotatedLeft inside v
  have fitsRight : 0 ≤ r ∧ r.toInt < 2 ^ n := by
    rw [turn]
    exact within_rotatedLeft v (n - k) (by omega)
  have inField := field ⟨nonneg, fits⟩
  refine ⟨left ⟨nonneg, fits⟩, ?_, fitsLeft, fitsRight, ?_, ?_⟩
  · rw [turn]
    exact right ⟨nonneg, fits⟩
  · have back := right fitsLeft
    rw [rotatedLeft_back small inside inField] at back
    exact back
  · have back := left fitsRight
    have undone := rotatedLeft_back small (Nat.sub_le n k) inField
    rw [Nat.sub_sub_self inside] at undone
    rw [turn] at back ⊢
    rw [undone] at back
    exact back

/-- The highest and the lowest bit of the widest field. -/
theorem ends_rotated_in_field :
    let v : Int64 := 2305843009213693953
    let s : Int64 := 1
    let size : Int64 := 62
    let gives (f : Function) (v r : Int64) : Prop :=
      f.result? 0 [.int v, .int s, .int size] = some (.ok (.int r))
    0 ≤ v ∧ v.toInt < 2 ^ size.toInt.toNat ∧ 0 ≤ s ∧ s ≤ size ∧ size ≤ 62 ∧
      gives .rol v 3 ∧ gives .ror v 3458764513820540928 ∧
      gives .ror 3 v ∧ gives .rol 3458764513820540928 v := by
  intro v s size gives
  have nonneg : 0 ≤ v := by decide
  have fits : v.toInt < 2 ^ size.toInt.toNat := by decide
  have least : 0 ≤ s := by decide
  have most : s ≤ size := by decide
  have largest : size ≤ 62 := by decide
  have ⟨left, right, _, _, undoneLeft, undoneRight⟩ :=
    rotations_of_field 0 nonneg fits least most largest
  have isLeft : rotatedLeft size.toInt.toNat v s.toInt.toNat = 3 := by decide
  have isRight : rotatedRight size.toInt.toNat v s.toInt.toNat = 3458764513820540928 := by decide
  rw [isLeft] at left undoneLeft
  rw [isRight] at right undoneRight
  exact ⟨nonneg, fits, least, most, largest, left, right, undoneLeft, undoneRight⟩

end TemplateCalc.Bits
