import Mathlib.NumberTheory.Multiplicity
import TemplateCalc.Function.Apply

/-!
Powers of integers.

The power of two integers is the exact power, wrapped, as long as the exponent is at most
`exponentBound`. A larger exponent counts as the bound. With an even base this does not show, since
both powers are zero; with an odd base it does, unless the powers of the base return to one over the
steps that are left out.
-/

set_option autoImplicit false

namespace TemplateCalc.Numeric

def exactPower (base : Int64) (n : Nat) : Int64 :=
  Int64.ofInt (base.toInt ^ n)

/-! ### The power with a bounded exponent -/

theorem wrapPow_ofInt (a : Int) (n : Nat) : wrapPow (Int64.ofInt a) n = Int64.ofInt (a ^ n) := by
  induction n using Nat.strongRecOn generalizing a with
  | ind n ih =>
      rw [wrapPow]
      by_cases zero : n = 0
      · rw [if_pos zero, zero, pow_zero]
        rfl
      have half : wrapPow (Int64.ofInt a * Int64.ofInt a) (n / 2) =
          Int64.ofInt (a ^ (2 * (n / 2))) := by
        rw [← Int64.ofInt_mul, ih (n / 2) (by omega), pow_mul, pow_two]
      rw [if_neg zero, half]
      by_cases odd : n % 2 = 1
      · have whole : 2 * (n / 2) + 1 = n := by omega
        rw [if_pos odd, ← Int64.ofInt_mul, ← pow_succ', whole]
      · have whole : 2 * (n / 2) = n := by omega
        rw [if_neg odd, whole]

theorem powInt_of_nonneg {base exponent : Int64} (nonneg : 0 ≤ exponent) :
    powInt base exponent = exactPower base (min exponent.toInt.toNat exponentBound) := by
  rw [powInt, if_pos nonneg, exactPower, ← wrapPow_ofInt, Int64.ofInt_toInt]

/-! ### Equal powers -/

theorem ofInt_eq_ofInt_iff (a b : Int) : Int64.ofInt a = Int64.ofInt b ↔ (2 : Int) ^ 64 ∣ a - b := by
  rw [Int64.ofInt_eq_iff_bmod_eq_toInt, Int64.toInt_ofInt,
    Int.bmod_eq_bmod_iff_bmod_sub_eq_zero, ← Int.dvd_iff_bmod_eq_zero]
  rfl

/-- Where the powers of an odd number return to one, modulo a power of two. -/
theorem dvd_pow_sub_one_iff {a : Int} (odd : ¬2 ∣ a) (n k : Nat) :
    2 ^ n ∣ a ^ k - 1 ↔ if 2 ∣ k then 2 ^ (n + 1) ∣ (a ^ 2 - 1) * k else 2 ^ n ∣ a - 1 := by
  have near : (2 : Int) ∣ a - 1 := by omega
  by_cases even : 2 ∣ k
  · have lifted := Int.two_pow_sub_pow near odd (even_iff_two_dvd.mpr even)
    have factors : (a ^ 2 - 1) * k = (a + 1) * (a - 1) * k := by ring
    rw [one_pow] at lifted
    rw [if_pos even, factors, pow_dvd_iff_le_emultiplicity, pow_dvd_iff_le_emultiplicity,
      emultiplicity_mul Int.prime_two, emultiplicity_mul Int.prime_two, ← lifted]
    push_cast
    exact (ENat.add_le_add_iff_right ENat.one_ne_top).symm
  · have even' : ¬(2 : Int) ∣ k := by exact_mod_cast even
    have lifted := emultiplicity_pow_sub_pow_of_prime Int.prime_two near odd even'
    rw [one_pow] at lifted
    rw [if_neg even, pow_dvd_iff_le_emultiplicity, pow_dvd_iff_le_emultiplicity, lifted]

theorem exactPower_eq_iff {base : Int64} (odd : ¬2 ∣ base.toInt) {m n : Nat} (less : m ≤ n) :
    exactPower base m = exactPower base n ↔ (2 : Int) ^ 64 ∣ base.toInt ^ (n - m) - 1 := by
  have odd' : ¬2 ∣ base.toInt ^ m := fun even => odd (Int.prime_two.dvd_of_dvd_pow even)
  have difference : base.toInt ^ m - base.toInt ^ n =
      -(base.toInt ^ m * (base.toInt ^ (n - m) - 1)) := by
    rw [mul_sub, ← pow_add, Nat.add_sub_cancel' less]
    ring
  rw [exactPower, exactPower, ofInt_eq_ofInt_iff, difference, dvd_neg]
  constructor
  · exact Int.prime_two.pow_dvd_of_dvd_mul_left 64 odd'
  · intro divides
    exact dvd_mul_of_dvd_right divides _

theorem exactPower_of_even {base : Int64} (even : 2 ∣ base.toInt) {n : Nat} (large : 64 ≤ n) :
    exactPower base n = 0 := by
  have divides : (2 : Int) ^ 64 ∣ base.toInt ^ n :=
    dvd_trans (pow_dvd_pow 2 large) (pow_dvd_pow_of_dvd even n)
  rw [← sub_zero (base.toInt ^ n), ← ofInt_eq_ofInt_iff] at divides
  exact divides

/-- Where the bound on the exponent does not show. -/
theorem bounded_exactPower_eq_iff (base : Int64) (e : Nat) :
    exactPower base (min e exponentBound) = exactPower base e ↔
      e ≤ exponentBound ∨ 2 ∣ base.toInt ∨ base.toInt = 1 ∨
        e % 2 = 1 ∧ 2 ^ 65 ∣ (base.toInt ^ 2 - 1) * (e - exponentBound) := by
  have bound : exponentBound = 4294967295 := rfl
  by_cases small : e ≤ exponentBound
  · rw [Nat.min_eq_left small]
    exact ⟨fun _ => .inl small, fun _ => rfl⟩
  have large : exponentBound ≤ e := by omega
  rw [Nat.min_eq_right large]
  by_cases even : 2 ∣ base.toInt
  · rw [exactPower_of_even even (by omega), exactPower_of_even even (by omega)]
    exact ⟨fun _ => .inr (.inl even), fun _ => rfl⟩
  have excess : ((e - exponentBound : Nat) : Int) = e - exponentBound := Int.ofNat_sub large
  rw [exactPower_eq_iff even large, dvd_pow_sub_one_iff even, excess, or_iff_right small,
    or_iff_right even]
  -- the bound is odd, so the number of steps left out is even where the exponent is odd
  by_cases steps : 2 ∣ e - exponentBound
  · rw [if_pos steps]
    constructor
    · intro divides
      exact .inr ⟨by omega, divides⟩
    · rintro (one | ⟨_, divides⟩)
      · rw [one]
        simp
      · exact divides
  · have lower : -2 ^ 63 ≤ base.toInt := base.le_toInt
    have upper : base.toInt < 2 ^ 63 := base.toInt_lt
    rw [if_neg steps]
    constructor
    · intro divides
      exact .inl (by omega)
    · rintro (one | ⟨odd, _⟩)
      · rw [one]
        simp
      · omega

/-! ### The function -/

theorem result?_pow (now : Float) {base exponent : Int64} (nonneg : 0 ≤ exponent) :
    Function.pow.result? now [.int base, .int exponent] =
      some (.ok (.int (exactPower base (min exponent.toInt.toNat exponentBound)))) := by
  rw [← powInt_of_nonneg nonneg]
  rfl

/-- The power of an integer with an exponent that is not negative is the power with the exponent or
`exponentBound`, whichever is less. It is the exact power, wrapped, if and only if the exponent is
within the bound, or the base is even, or it is one, or the powers of the base return to one over
the steps by which the exponent exceeds the bound. -/
theorem power_is_exact_iff (now : Float) (base exponent : Int64) (nonneg : 0 ≤ exponent) :
    (Function.pow.result? now [.int base, .int exponent] =
      some (.ok (.int (exactPower base (min exponent.toInt.toNat exponentBound))))) ∧
    (Function.pow.result? now [.int base, .int exponent] =
        some (.ok (.int (exactPower base exponent.toInt.toNat))) ↔
      exponent.toInt.toNat ≤ exponentBound ∨ 2 ∣ base.toInt ∨ base.toInt = 1 ∨
        exponent.toInt.toNat % 2 = 1 ∧
          2 ^ 65 ∣ (base.toInt ^ 2 - 1) * (exponent.toInt.toNat - exponentBound)) := by
  have result : Function.pow.result? now [.int base, .int exponent] =
      some (.ok (.int (exactPower base (min exponent.toInt.toNat exponentBound)))) :=
    result?_pow now nonneg
  refine ⟨result, ?_⟩
  rw [result, Option.some_inj, Except.ok.injEq, Value.int.injEq]
  exact bounded_exactPower_eq_iff base exponent.toInt.toNat

/-- An odd base and an exponent that exceeds the bound by a period of its powers. -/
theorem power_of_three_behind_period :
    let exponent : Int64 := 4611686022722355199
    0 ≤ exponent ∧ exponentBound < exponent.toInt.toNat ∧
      Function.pow.result? 0 [.int 3, .int exponent] =
        some (.ok (.int (exactPower 3 exponent.toInt.toNat))) := by
  intro exponent
  have nonneg : 0 ≤ exponent := by decide
  have ⟨_, isExact⟩ := power_is_exact_iff 0 3 exponent nonneg
  have period : exponent.toInt.toNat % 2 = 1 ∧
      2 ^ 65 ∣ ((3 : Int64).toInt ^ 2 - 1) * (exponent.toInt.toNat - exponentBound) := by decide
  exact ⟨nonneg, by decide, isExact.mpr (.inr (.inr (.inr period)))⟩

/-- The exponent is even and counts as the bound, which is odd. -/
theorem power_of_minus_one_behind_bound :
    let exponent : Int64 := 4294967296
    0 ≤ exponent ∧ exactPower (-1) exponent.toInt.toNat = 1 ∧
      Function.pow.result? 0 [.int (-1), .int exponent] = some (.ok (.int (-1))) := by
  intro exponent
  have nonneg : 0 ≤ exponent := by decide
  have minusOne : (-1 : Int64).toInt = -1 := by decide
  have even : Even exponent.toInt.toNat := ⟨2147483648, by decide⟩
  have odd : Odd (min exponent.toInt.toNat exponentBound) := ⟨2147483647, by decide⟩
  refine ⟨nonneg, ?_, ?_⟩
  · rw [exactPower, minusOne, even.neg_one_pow]
    rfl
  · rw [result?_pow 0 nonneg, exactPower, minusOne, odd.neg_one_pow]
    rfl

end TemplateCalc.Numeric
