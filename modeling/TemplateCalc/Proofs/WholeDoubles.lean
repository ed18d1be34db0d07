import Mathlib

/-!
Whole numbers as doubles.

A whole number of less than 54 binary digits is a double. Main statements: the doubles are ordered as
the numbers are, zero changes none of them, each is its own difference from zero, and as words they
are the numbers again.
-/

set_option autoImplicit false

namespace TemplateCalc.Double.Whole

open Float.Model hiding pack unpack
open Float.Model.UnpackedFloat

/-! ### Rounding of exact numbers -/

/-- Shifting out zeros leaves the mantissa as it was, and exact. -/
theorem shiftRight_exact (m k : Nat) :
    (ExtendedMantissa.ofMantissaAndAccuracy (m <<< k) .exact) >>> k =
      .ofMantissaAndAccuracy m .exact := by
  induction k generalizing m with
  | zero => rfl
  | succ k ih =>
      have twice : m <<< (k + 1) = (2 * m) <<< k := by
        rw [Nat.shiftLeft_succ, Nat.shiftLeft_eq, Nat.shiftLeft_eq, Nat.mul_assoc]
      change ExtendedMantissa.shiftRightOne
        (ExtendedMantissa.ofMantissaAndAccuracy (m <<< (k + 1)) .exact >>> k) = _
      rw [twice, ih, ExtendedMantissa.shiftRightOne]
      simp [ExtendedMantissa.ofMantissaAndAccuracy]

theorem log2_shiftLeft {n : Nat} (nonzero : n ≠ 0) (k : Nat) : (n <<< k).log2 = n.log2 + k := by
  induction k with
  | zero => rfl
  | succ k ih =>
      rw [Nat.shiftLeft_succ, Nat.log2_two_mul, ih, Nat.add_assoc]
      rw [Nat.shiftLeft_eq]
      positivity

theorem targetExponent_eq (m : Nat) (e : Int) :
    Format.binary64.targetExponent (totalExponent m e) = max (m.log2 + e - 52) (-1074) := by
  have full : Format.binary64.mantissaBits = 53 := rfl
  have least : Format.binary64.minExponent = -1074 := rfl
  rw [Format.targetExponent, totalExponent, full, least]
  omega

structure Canonical (m : Nat) (e : Int) : Prop where
  log2_eq : m.log2 = 52
  least_le : -1074 ≤ e
  le_greatest : e ≤ 971

namespace Canonical

variable {m : Nat} {e : Int}

theorem pos (canonical : Canonical m e) : 0 < m := by
  rcases Nat.eq_zero_or_pos m with rfl | pos
  · exact absurd canonical.log2_eq (by decide)
  · exact pos

theorem bounds (canonical : Canonical m e) : 2 ^ 52 ≤ m ∧ m < 2 ^ 53 :=
  (Nat.log2_eq_iff canonical.pos.ne').mp canonical.log2_eq

theorem shiftToTargetExponent_eq (canonical : Canonical m e) (k : Nat) :
    shiftToTargetExponent Format.binary64 (m <<< k) (e - k) .exact =
      (.ofMantissaAndAccuracy m .exact, e) := by
  have least := canonical.least_le
  have target : Format.binary64.targetExponent (totalExponent (m <<< k) (e - k)) = e := by
    rw [targetExponent_eq, log2_shiftLeft canonical.pos.ne', canonical.log2_eq]
    omega
  have amount : (e - (e - k)).toNat = k := by omega
  rw [shiftToTargetExponent, target, shiftToExponent]
  simp only [amount, shiftRight_exact]
  rw [Int.sub_add_cancel]

theorem roundWithAccuracy_eq (canonical : Canonical m e) (s : Sign) (k : Nat) :
    roundWithAccuracy Format.binary64 s (m <<< k) (e - k) .exact = .finite s m e canonical.pos := by
  have again := canonical.shiftToTargetExponent_eq 0
  simp only [Nat.shiftLeft_zero, Nat.cast_zero, sub_zero] at again
  rw [roundWithAccuracy, canonical.shiftToTargetExponent_eq k]
  simp only [ExtendedMantissa.roundedMantissa, ExtendedMantissa.ofMantissaAndAccuracy,
    ExtendedMantissa.accuracy, Accuracy.roundToNearestEven, again, canonical.pos.ne', dite_false]

theorem pack_eq (canonical : Canonical m e) (s : Sign) :
    pack Format.binary64 (.finite s m e canonical.pos) =
      packComponents Format.binary64 s (BitVec.ofNat 11 (e + 1075).toNat) (BitVec.ofNat 52 m) := by
  have least := canonical.least_le
  have greatest := canonical.le_greatest
  have full : Format.binary64.mantissaBits = 53 := rfl
  have bias : Format.binary64.exponentBias = 1023 := rfl
  have biased : (e + (1023 : Nat) + (52 : Nat)).toNat = (e + 1075).toNat := by omega
  have inside : ¬2 ^ 11 ≤ (e + 1075).toNat + 1 := by omega
  simp only [pack, bias, biased, full, canonical.log2_eq, if_neg inside, if_true]

theorem exponent_field (canonical : Canonical m e) :
    (BitVec.ofNat 11 (e + 1075).toNat).toNat = (e + 1075).toNat := by
  have greatest := canonical.le_greatest
  rw [BitVec.toNat_ofNat, Nat.mod_eq_of_lt (by omega)]

/-- The leading digit, which is not kept, is put back. -/
theorem mantissa_field (canonical : Canonical m e) : (1#1 ++ BitVec.ofNat 52 m).toNat = m := by
  have bounds := canonical.bounds
  have low : m % 2 ^ 52 = m - 2 ^ 52 := by omega
  have split := Nat.two_pow_add_eq_or_of_lt (show m - 2 ^ 52 < 2 ^ 52 by omega) 1
  rw [BitVec.toNat_append, BitVec.toNat_ofNat, BitVec.toNat_ofNat, low, Nat.shiftLeft_eq,
    Nat.mul_comm, Nat.mod_eq_of_lt (by decide), ← split]
  omega

theorem unpack_pack (canonical : Canonical m e) (s : Sign) :
    unpack Format.binary64 (pack Format.binary64 (.finite s m e canonical.pos)) =
      .finite s m e canonical.pos := by
  have least := canonical.least_le
  have greatest := canonical.le_greatest
  have differs {b : BitVec 11} (other : (e + 1075).toNat ≠ b.toNat) :
      BitVec.ofNat 11 (e + 1075).toNat ≠ b :=
    fun same => other (canonical.exponent_field ▸ congrArg BitVec.toNat same)
  have noInfinity := @differs (-1#11) (show _ ≠ 2047 by omega)
  have noZero := @differs 0#11 (show _ ≠ 0 by omega)
  have bias : Format.binary64.exponentBias = 1023 := rfl
  rw [canonical.pack_eq, unpack]
  simp only [unpackMantissa_packComponents, unpackExponent_packComponents,
    unpackSign_packComponents, Sign.ofBitVec_toBitVec, if_neg noInfinity, if_neg noZero,
    canonical.mantissa_field, canonical.exponent_field, bias]
  congr 1
  omega

end Canonical

/-! ### Whole numbers -/

def mantissa (n : Nat) : Nat :=
  n <<< (52 - n.log2)

def exponent (n : Nat) : Int :=
  n.log2 - 52

section Whole

variable {n : Nat}

theorem canonical_whole (nonzero : n ≠ 0) (small : n < 2 ^ 53) :
    Canonical (mantissa n) (exponent n) := by
  have short : n.log2 < 53 := (Nat.log2_lt nonzero).mpr small
  refine ⟨?_, ?_, ?_⟩
  · rw [mantissa, log2_shiftLeft nonzero]
    omega
  · rw [exponent]
    omega
  · rw [exponent]
    omega

theorem round_whole (nonzero : n ≠ 0) (small : n < 2 ^ 53) (s : Sign) :
    UnpackedFloat.round Format.binary64 s n 0 =
      .finite s (mantissa n) (exponent n) (canonical_whole nonzero small).pos := by
  have short : n.log2 < 53 := (Nat.log2_lt nonzero).mpr small
  have target : Format.binary64.targetExponent (totalExponent n 0) = exponent n := by
    rw [targetExponent_eq, exponent]
    omega
  have amount : (0 - exponent n).toNat = 52 - n.log2 := by
    rw [exponent]
    omega
  have rest : (0 : Int) - (52 - n.log2 : Nat) = exponent n := by
    rw [exponent]
    omega
  have rounded := (canonical_whole nonzero small).roundWithAccuracy_eq s 0
  simp only [Nat.shiftLeft_zero, Nat.cast_zero, sub_zero] at rounded
  rw [UnpackedFloat.round, target, decreaseExponent, amount, ← mantissa, rest]
  exact rounded

theorem unpack_pack_whole (nonzero : n ≠ 0) (small : n < 2 ^ 53) (s : Sign) :
    (Float.Model.pack
        (.finite s (mantissa n) (exponent n) (canonical_whole nonzero small).pos)).unpack =
      .finite s (mantissa n) (exponent n) (canonical_whole nonzero small).pos :=
  (canonical_whole nonzero small).unpack_pack s

theorem ofUInt64_eq (nonzero : n ≠ 0) (small : n < 2 ^ 53) :
    UnpackedFloat.ofUInt64 Format.binary64 n.toUInt64 =
      .finite .positive (mantissa n) (exponent n) (canonical_whole nonzero small).pos := by
  have value : n.toUInt64.toNat = n := UInt64.toNat_ofNat_of_lt' (small.trans (by decide))
  have above : compare (n : Int) 0 = .gt := by
    rw [compare_gt_iff_gt]
    omega
  rw [UnpackedFloat.ofUInt64, UnpackedFloat.ofNat, UnpackedFloat.ofInt, UnpackedFloat.normalize,
    value, above]
  exact round_whole nonzero small _

theorem unpack_powerOfTen_zero : Float.exactlyRepresentablePowersOfTen[0].toModel.unpack =
    .finite .positive (1 <<< 52) (-52) (by decide) :=
  rfl

theorem unpack_ofNat (nonzero : n ≠ 0) (small : n < 2 ^ 53) :
    (Float.ofNat n).toModel.unpack =
      .finite .positive (mantissa n) (exponent n) (canonical_whole nonzero small).pos := by
  have isProduct : Float.ofNat n = n.toUInt64.toFloat * Float.exactlyRepresentablePowersOfTen[0] :=
    dif_pos ⟨small, Nat.zero_le 22⟩
  have factor : n.toUInt64.toFloat.toModel.unpack =
      .finite .positive (mantissa n) (exponent n) (canonical_whole nonzero small).pos := by
    change (Float.Model.pack (UnpackedFloat.ofUInt64 Format.binary64 n.toUInt64)).unpack = _
    rw [ofUInt64_eq nonzero small, unpack_pack_whole nonzero small]
  have product : mantissa n * 1 <<< 52 = mantissa n <<< 52 := by
    rw [Nat.shiftLeft_eq, Nat.shiftLeft_eq, Nat.one_mul]
  rw [isProduct]
  change (Float.Model.pack (UnpackedFloat.mul Format.binary64 n.toUInt64.toFloat.toModel.unpack
    Float.exactlyRepresentablePowersOfTen[0].toModel.unpack)).unpack = _
  rw [factor, unpack_powerOfTen_zero, UnpackedFloat.mul, product]
  change (Float.Model.pack (roundWithAccuracy Format.binary64 .positive (mantissa n <<< 52)
    (exponent n - (52 : Nat)) .exact)).unpack = _
  rw [(canonical_whole nonzero small).roundWithAccuracy_eq, unpack_pack_whole nonzero small]

end Whole

theorem mantissa_pos (n : Nat) : 0 < mantissa (n + 1) := by
  rw [mantissa, Nat.shiftLeft_eq]
  positivity

def wholeParts : Int → UnpackedFloat
  | 0 => .zero .positive
  | .ofNat (n + 1) => .finite .positive (mantissa (n + 1)) (exponent (n + 1)) (mantissa_pos n)
  | .negSucc n => .finite .negative (mantissa (n + 1)) (exponent (n + 1)) (mantissa_pos n)

theorem unpack_ofInt {n : Int} (small : n.natAbs < 2 ^ 53) :
    (Float.ofInt n).toModel.unpack = wholeParts n := by
  cases n with
  | ofNat n =>
      cases n with
      | zero => rfl
      | succ n => exact unpack_ofNat (Nat.succ_ne_zero n) small
  | negSucc n =>
      change (Float.Model.pack (Float.ofNat (n + 1)).toModel.unpack.neg).unpack = _
      rw [unpack_ofNat (Nat.succ_ne_zero n) small]
      exact unpack_pack_whole (Nat.succ_ne_zero n) small .negative

/-! ### Their order -/

theorem order_of_lt {a b : Nat} (nonzero : a ≠ 0) (small : b < 2 ^ 53) (less : a < b) :
    (compare (exponent a) (exponent b)).then (compare (mantissa a) (mantissa b)) = .lt := by
  have bound := Nat.log2_self_le nonzero
  have short : b.log2 < 53 := (Nat.log2_lt (by omega)).mpr small
  have le : a.log2 ≤ b.log2 := by
    by_contra above
    have : 2 ^ (b.log2 + 1) ≤ 2 ^ a.log2 := Nat.pow_le_pow_right (by decide) (by omega)
    have := @Nat.lt_log2_self b
    omega
  rcases Nat.lt_or_eq_of_le le with shorter | same
  · rw [compare_lt_iff_lt.mpr (by unfold exponent; omega)]
    rfl
  · have smaller : mantissa a < mantissa b := by
      rw [mantissa, mantissa, same, Nat.shiftLeft_eq, Nat.shiftLeft_eq]
      exact Nat.mul_lt_mul_of_pos_right less (by positivity)
    rw [exponent, exponent, same, compare_eq_iff_eq.mpr rfl, compare_lt_iff_lt.mpr smaller]
    rfl

theorem order_eq {a b : Nat} (nonzero : a ≠ 0) (nonzero' : b ≠ 0) (small : a < 2 ^ 53)
    (small' : b < 2 ^ 53) :
    (compare (exponent a) (exponent b)).then (compare (mantissa a) (mantissa b)) = compare a b := by
  rcases Nat.lt_trichotomy a b with less | rfl | greater
  · rw [order_of_lt nonzero small' less, compare_lt_iff_lt.mpr less]
  · simp
  · rw [Std.OrientedOrd.eq_swap, @Std.OrientedOrd.eq_swap _ _ _ (mantissa a), ← Ordering.swap_then,
      order_of_lt nonzero' small greater, compare_gt_iff_gt.mpr greater]
    rfl

theorem compare_ofNat (a b : Nat) : compare (Int.ofNat a) (Int.ofNat b) = compare a b := by
  simp only [compare, compareOfLessAndEq, Int.ofNat_eq_natCast, Int.ofNat_lt, Int.ofNat_inj]

theorem compare_negSucc (a b : Nat) :
    compare (Int.negSucc a) (Int.negSucc b) = (compare (a + 1) (b + 1)).swap := by
  rcases Nat.lt_trichotomy a b with less | rfl | greater
  · rw [compare_lt_iff_lt.mpr (Nat.add_lt_add_right less 1), compare_gt_iff_gt.mpr (by omega)]
    rfl
  · rw [compare_eq_iff_eq.mpr rfl, compare_eq_iff_eq.mpr rfl]
    rfl
  · rw [compare_gt_iff_gt.mpr (Nat.add_lt_add_right greater 1), compare_lt_iff_lt.mpr (by omega)]
    rfl

theorem compare_wholeParts {a b : Int} (small : a.natAbs < 2 ^ 53) (small' : b.natAbs < 2 ^ 53) :
    (wholeParts a).compare (wholeParts b) = some (compare a b) := by
  have below {a b : Int} (less : a < b) : some .lt = some (compare a b) :=
    congrArg some (compare_lt_iff_lt.mpr less).symm
  have above {a b : Int} (greater : b < a) : some .gt = some (compare a b) :=
    congrArg some (compare_gt_iff_gt.mpr greater).symm
  rcases a with (_ | a) | a <;> rcases b with (_ | b) | b
  · rfl
  · exact below (Int.ofNat_lt.mpr b.succ_pos)
  · exact above (Int.negSucc_lt_zero b)
  · exact above (Int.ofNat_lt.mpr a.succ_pos)
  · rw [compare_ofNat, ← order_eq a.succ_ne_zero b.succ_ne_zero small small']
    rfl
  · exact above ((Int.negSucc_lt_zero b).trans (Int.ofNat_lt.mpr a.succ_pos))
  · exact below (Int.negSucc_lt_zero a)
  · exact below ((Int.negSucc_lt_zero a).trans (Int.ofNat_lt.mpr b.succ_pos))
  · rw [compare_negSucc, ← order_eq a.succ_ne_zero b.succ_ne_zero small small']
    rfl

section Order

variable {a b : Int}

theorem ofInt_lt_ofInt (small : a.natAbs < 2 ^ 53) (small' : b.natAbs < 2 ^ 53) :
    Float.ofInt a < Float.ofInt b ↔ a < b := by
  change decide (((Float.ofInt a).toModel.unpack.compare (Float.ofInt b).toModel.unpack ==
    some .lt) = true) = true ↔ _
  rw [unpack_ofInt small, unpack_ofInt small', compare_wholeParts small small', decide_eq_true_iff,
    beq_iff_eq, Option.some.injEq, compare_lt_iff_lt]

theorem ofInt_le_ofInt (small : a.natAbs < 2 ^ 53) (small' : b.natAbs < 2 ^ 53) :
    Float.ofInt a ≤ Float.ofInt b ↔ a ≤ b := by
  change decide (((Float.ofInt a).toModel.unpack.compare (Float.ofInt b).toModel.unpack).any
    (·.isLE) = true) = true ↔ _
  rw [unpack_ofInt small, unpack_ofInt small', compare_wholeParts small small', decide_eq_true_iff,
    Option.any_some, Std.isLE_compare]

end Order

/-! ### Arithmetic -/

section Arithmetic

variable {n : Int}

theorem pack_wholeParts (small : n.natAbs < 2 ^ 53) :
    Float.ofModel (.pack (wholeParts n)) = Float.ofInt n := by
  rw [← unpack_ofInt small]
  exact Float.ofBits_toBits _

theorem wholeParts_add_zero (n : Int) :
    UnpackedFloat.add Format.binary64 (wholeParts n) (.zero .positive) = wholeParts n := by
  rcases n with (_ | n) | n <;> rfl

theorem wholeParts_sub_zero (n : Int) :
    UnpackedFloat.sub Format.binary64 (wholeParts n) (.zero .positive) = wholeParts n := by
  rcases n with (_ | n) | n <;> rfl

theorem wholeParts_sub_self (n : Int) :
    UnpackedFloat.sub Format.binary64 (wholeParts n) (wholeParts n) = .zero .positive := by
  have cancelled (e m : Int) : normalize Format.binary64 (m - m) e .positive = .zero .positive := by
    rw [Int.sub_self]
    rfl
  rcases n with (_ | n) | n
  · rfl
  · exact cancelled _ _
  · exact cancelled _ _

theorem ofInt_add_zero (small : n.natAbs < 2 ^ 53) : Float.ofInt n + 0.0 = Float.ofInt n := by
  change Float.ofModel (.pack (UnpackedFloat.add _ (Float.ofInt n).toModel.unpack
    (.zero .positive))) = _
  rw [unpack_ofInt small, wholeParts_add_zero, pack_wholeParts small]

theorem ofInt_sub_zero (small : n.natAbs < 2 ^ 53) : Float.ofInt n - 0.0 = Float.ofInt n := by
  change Float.ofModel (.pack (UnpackedFloat.sub _ (Float.ofInt n).toModel.unpack
    (.zero .positive))) = _
  rw [unpack_ofInt small, wholeParts_sub_zero, pack_wholeParts small]

theorem ofInt_sub_self (small : n.natAbs < 2 ^ 53) : Float.ofInt n - Float.ofInt n = 0.0 := by
  change Float.ofModel (.pack (UnpackedFloat.sub _ (Float.ofInt n).toModel.unpack
    (Float.ofInt n).toModel.unpack)) = _
  rw [unpack_ofInt small, wholeParts_sub_self]
  rfl

theorem neg_ofInt (small : n.natAbs < 2 ^ 53) (nonzero : n ≠ 0) :
    -Float.ofInt n = Float.ofInt (-n) := by
  have turned : (wholeParts n).neg = wholeParts (-n) := by
    rcases n with (_ | n) | n
    · exact absurd rfl nonzero
    · rfl
    · rfl
  change Float.ofModel (.pack (Float.ofInt n).toModel.unpack.neg) = _
  rw [unpack_ofInt small, turned, pack_wholeParts (by rwa [Int.natAbs_neg])]

theorem toNat_toUInt64_ofNat {n : Nat} (small : n < 2 ^ 53) :
    (Float.ofInt n).toUInt64.toNat = n := by
  cases n with
  | zero => rfl
  | succ n =>
      have short : (n + 1).log2 < 53 := (Nat.log2_lt n.succ_ne_zero).mpr small
      have atLeast : (exponent (n + 1) - 0).toNat = 0 := by
        rw [exponent]
        omega
      have amount : (0 - exponent (n + 1)).toNat = 52 - (n + 1).log2 := by
        rw [exponent]
        omega
      have whole : roundToInt .positive (mantissa (n + 1)) (exponent (n + 1)) = (n + 1 : Nat) := by
        rw [roundToInt, decreaseExponent, atLeast]
        simp only [Nat.shiftLeft_zero, Nat.cast_zero, sub_zero, shiftToExponent, amount]
        rw [mantissa, shiftRight_exact]
        rfl
      change (UInt64.ofNatClamp ((Float.ofInt (n + 1 : Nat)).toModel.unpack.toInt 0
        (UInt64.size - 1)).toNat).toNat = n + 1
      rw [@unpack_ofInt (n + 1 : Nat) small]
      change (UInt64.ofNatClamp
        (roundToInt .positive (mantissa (n + 1)) (exponent (n + 1))).toNat).toNat = n + 1
      rw [whole, Int.toNat_natCast, UInt64.toNat_ofNatClamp_of_lt (small.trans (by decide))]

end Arithmetic

end TemplateCalc.Double.Whole
