import Mathlib.Algebra.Order.Field.Power
import Mathlib.Tactic.FieldSimp
import Mathlib.Tactic.Linarith
import Mathlib.Tactic.NormNum
import Mathlib.Tactic.Positivity
import Mathlib.Tactic.Ring
import TemplateCalc.Proofs.Conversions

/-!
Reals in hexadecimal.

The hexadecimal form of a double is its significand, with a leading digit and thirteen digits behind
the point, and its exponent. It is exact if all these digits are shown. With fewer digits, but at
least one, it is the nearest number that has so many, and a half goes to the even one, also where
rounding carries into the leading digit. Without digits a half goes down, whether or not the leading
digit is even.
-/

set_option autoImplicit false

namespace TemplateCalc.Double

/-! ### Nearest whole numbers -/

section Nearest

variable {n k : ℤ} {x : ℚ}

theorem one_le_distance (other : k ≠ n) : 1 ≤ |k - x| + |n - x| := by
  have apart : (1 : ℚ) ≤ |(k : ℚ) - n| := by
    exact_mod_cast Int.one_le_abs (sub_ne_zero.mpr other)
  calc (1 : ℚ) ≤ |(k - x) - (n - x)| := by rwa [sub_sub_sub_cancel_right]
    _ ≤ |k - x| + |n - x| := abs_sub _ _

theorem distance_le_of_half (near : |n - x| ≤ 1 / 2) (k : ℤ) : |n - x| ≤ |k - x| := by
  by_cases same : k = n
  · rw [same]
  · have apart := one_le_distance (x := x) same
    linarith

theorem half_of_tie (near : |n - x| ≤ 1 / 2) (other : k ≠ n) (tie : |k - x| = |n - x|) :
    |n - x| = 1 / 2 := by
  have apart := one_le_distance (x := x) other
  linarith

end Nearest

/-- A whole number to which none is nearer, and which is even if another one is as near. -/
structure NearestEven (n : Nat) (x : ℚ) : Prop where
  nearest : ∀ k : ℤ, |n - x| ≤ |k - x|
  even : ∀ k : ℤ, k ≠ n → |k - x| = |n - x| → Even n

section Quotient

variable {num den n : Nat}

structure RoundsTo (num den n : Nat) : Prop where
  positive : 0 < den
  neighbour : n = num / den ∧ 2 * (num % den) ≤ den ∨ n = num / den + 1 ∧ den ≤ 2 * (num % den)

theorem quotient_eq (positive : 0 < den) :
    (num : ℚ) / den = (num / den : Nat) + (num % den : Nat) / den := by
  have positive : (0 : ℚ) < den := by exact_mod_cast positive
  field_simp
  exact_mod_cast (Nat.div_add_mod num den).symm

theorem rest_eq_half (num : Nat) (positive : 0 < den) :
    (num % den : Nat) / (den : ℚ) = 1 / 2 ↔ 2 * (num % den) = den := by
  have positive : (0 : ℚ) < den := by exact_mod_cast positive
  rw [div_eq_div_iff positive.ne' two_ne_zero, one_mul, mul_comm]
  exact_mod_cast Iff.rfl

namespace RoundsTo

theorem distance (rounds : RoundsTo num den n) :
    |(n : ℚ) - num / den| ≤ 1 / 2 ∧ (|(n : ℚ) - num / den| = 1 / 2 ↔ 2 * (num % den) = den) := by
  have positive : (0 : ℚ) < den := by exact_mod_cast rounds.positive
  have half := rest_eq_half num rounds.positive
  rcases rounds.neighbour with ⟨rfl, below⟩ | ⟨rfl, above⟩
  · have nonneg : (0 : ℚ) ≤ (num % den : Nat) / den := by positivity
    have below : (num % den : Nat) / (den : ℚ) ≤ 1 / 2 := by
      rw [div_le_div_iff₀ positive two_pos, one_mul, mul_comm]
      exact_mod_cast below
    rw [quotient_eq rounds.positive, sub_add_cancel_left, abs_neg, abs_of_nonneg nonneg]
    exact ⟨below, half⟩
  · have above : 1 / 2 ≤ (num % den : Nat) / (den : ℚ) := by
      rw [div_le_div_iff₀ two_pos positive, one_mul, mul_comm ((num % den : Nat) : ℚ)]
      exact_mod_cast above
    have less : (num % den : Nat) / (den : ℚ) ≤ 1 := by
      rw [div_le_one positive]
      exact_mod_cast (Nat.mod_lt num rounds.positive).le
    rw [quotient_eq rounds.positive, Nat.cast_succ, add_sub_add_left_eq_sub,
      abs_of_nonneg (sub_nonneg.mpr less), ← half]
    exact ⟨by linarith, by constructor <;> intro same <;> linarith⟩

theorem nearest (rounds : RoundsTo num den n) (k : ℤ) :
    |(n : ℚ) - num / den| ≤ |(k : ℚ) - num / den| :=
  distance_le_of_half (n := n) rounds.distance.1 k

/-- Both neighbours are as near as each other. -/
theorem exists_other (rounds : RoundsTo num den n) (half : 2 * (num % den) = den) :
    ∃ k : ℤ, k ≠ n ∧ |(k : ℚ) - num / den| = |(n : ℚ) - num / den| := by
  have middle : (num : ℚ) / den = (num / den : Nat) + 1 / 2 := by
    rw [quotient_eq rounds.positive, (rest_eq_half num rounds.positive).mpr half]
  rw [rounds.distance.2.mpr half, middle]
  rcases rounds.neighbour with ⟨rfl, _⟩ | ⟨rfl, _⟩
  · refine ⟨(num / den : Nat) + 1, by omega, ?_⟩
    rw [Int.cast_add, Int.cast_natCast, Int.cast_one, add_sub_add_left_eq_sub]
    norm_num
  · refine ⟨(num / den : Nat), by omega, ?_⟩
    rw [Int.cast_natCast, sub_add_cancel_left]
    norm_num

theorem nearestEven_iff (rounds : RoundsTo num den n) :
    NearestEven n (num / den) ↔ (2 * (num % den) = den → n % 2 = 0) := by
  constructor
  · intro nearest half
    obtain ⟨k, other, tie⟩ := rounds.exists_other half
    exact Nat.even_iff.mp (nearest.even k other tie)
  · intro even
    refine ⟨rounds.nearest, fun k other tie => Nat.even_iff.mpr (even ?_)⟩
    exact rounds.distance.2.mp (half_of_tie (n := n) rounds.distance.1 other tie)

end RoundsTo

theorem nearestEven_roundHalfEven (num : Nat) (positive : 0 < den) :
    NearestEven (roundHalfEven num den) (num / den) := by
  have rounds : RoundsTo num den (roundHalfEven num den) := by
    refine ⟨positive, ?_⟩
    rw [roundHalfEven]
    by_cases up : 2 * (num % den) > den ∨ (2 * (num % den) = den ∧ num / den % 2 = 1)
    · rw [if_pos up]
      exact .inr ⟨rfl, by omega⟩
    · rw [if_neg up]
      exact .inl ⟨rfl, by omega⟩
  rw [rounds.nearestEven_iff, roundHalfEven]
  intro half
  by_cases odd : num / den % 2 = 1
  · rw [if_pos (.inr ⟨half, odd⟩)]
    omega
  · rw [if_neg (by omega)]
    omega

end Quotient

/-! ### Doubles as rational numbers -/

def Magnitude.value (m : Magnitude) : ℚ :=
  m.significand * 2 ^ m.exponent

end TemplateCalc.Double

namespace TemplateCalc.Printf

open Double

/-- The significand of a double, in units of its last hexadecimal digit. -/
def significand (f : Fields) : Nat :=
  (leadAndExponent f).1 * 16 ^ fractionDigits + f.fraction

theorem magnitude_of_parts {f : Fields} {m : Magnitude} {negative : Bool}
    (stands : f.parts = .finite negative m) : f.negative = negative ∧ f.magnitude = m := by
  rw [Fields.parts] at stands
  split at stands
  · split at stands <;> cases stands
  · injection stands with sign same
    exact ⟨sign, same⟩

/-- A double is its significand times the power of two that is shown. -/
theorem value_magnitude (f : Fields) :
    f.magnitude.value = significand f / 16 ^ fractionDigits * 2 ^ (leadAndExponent f).2 := by
  have units : (16 : ℚ) ^ fractionDigits = 2 ^ (52 : ℤ) := by norm_num [fractionDigits]
  have shift (e : ℤ) : (2 : ℚ) ^ (e - 52) = 2 ^ e / 2 ^ (52 : ℤ) := zpow_sub₀ two_ne_zero e 52
  rw [Fields.magnitude, significand, leadAndExponent, Magnitude.value, units, div_mul_eq_mul_div,
    mul_div_assoc, ← shift]
  by_cases subnormal : f.biased = 0
  · rw [if_pos subnormal, if_pos subnormal]
    by_cases zero : f.fraction = 0
    · rw [if_pos zero, zero]
      simp
    · rw [if_neg zero, Nat.zero_mul, Nat.zero_add]
      rfl
  · have exponent : (f.biased : ℤ) - 1023 - 52 = f.biased - 1075 := by omega
    rw [if_neg subnormal, if_neg subnormal, Nat.one_mul, exponent]
    rfl

theorem fraction_lt (bits : UInt64) : (Fields.ofBits bits).fraction < 16 ^ fractionDigits :=
  Nat.mod_lt _ (by decide)

/-! ### Rounding of fractions -/

section Rounding

variable {lead fraction count : Nat}

theorem roundFraction_eq_ite (lead fraction count : Nat) :
    roundFraction lead fraction count =
      let unit := 16 ^ (fractionDigits - count)
      let kept := fraction / unit
      if 2 * (fraction % unit) > unit ∨ (2 * (fraction % unit) = unit ∧ kept % 2 = 1) then
        if kept + 1 = 16 ^ count then (lead + 1, 0) else (lead, kept + 1)
      else (lead, kept) :=
  rfl

/-- With at least one digit, the fraction is rounded as the whole significand is. -/
theorem roundFraction_units (shown : 1 ≤ count) (few : count ≤ fractionDigits)
    (below : fraction < 16 ^ fractionDigits) :
    (roundFraction lead fraction count).2 < 16 ^ count ∧
      (roundFraction lead fraction count).1 * 16 ^ count + (roundFraction lead fraction count).2 =
        roundHalfEven (lead * 16 ^ fractionDigits + fraction) (16 ^ (fractionDigits - count)) := by
  have whole : 16 ^ (fractionDigits - count) * 16 ^ count = 16 ^ fractionDigits := by
    rw [← pow_add, Nat.sub_add_cancel few]
  have split : lead * 16 ^ fractionDigits + fraction =
      fraction + 16 ^ (fractionDigits - count) * (lead * 16 ^ count) := by
    rw [← whole]
    ring
  have positive : 0 < 16 ^ (fractionDigits - count) := by positivity
  -- the leading digit counts an even number of units, so the parity of the last digit decides
  have even : lead * 16 ^ count % 2 = 0 :=
    Nat.mod_eq_zero_of_dvd (dvd_mul_of_dvd_right (dvd_pow (by decide) (by omega)) lead)
  have kept : fraction / 16 ^ (fractionDigits - count) < 16 ^ count := by
    rw [Nat.div_lt_iff_lt_mul positive, mul_comm, whole]
    exact below
  rw [roundFraction_eq_ite, roundHalfEven, split, Nat.add_mul_div_left _ _ positive,
    Nat.add_mul_mod_self_left]
  dsimp only
  generalize fraction / 16 ^ (fractionDigits - count) = quotient at kept ⊢
  generalize fraction % 16 ^ (fractionDigits - count) = rest
  generalize 16 ^ (fractionDigits - count) = unit
  have parity : (quotient + lead * 16 ^ count) % 2 = quotient % 2 := by omega
  rw [parity]
  by_cases up : 2 * rest > unit ∨ (2 * rest = unit ∧ quotient % 2 = 1)
  · rw [if_pos up, if_pos up]
    by_cases carry : quotient + 1 = 16 ^ count
    · rw [if_pos carry]
      dsimp only
      rw [Nat.succ_mul]
      omega
    · rw [if_neg carry]
      dsimp only
      omega
  · rw [if_neg up, if_neg up]
    exact ⟨kept, Nat.add_comm _ _⟩

/-- Without digits, a half goes down. -/
theorem roundFraction_zero (below : fraction < 16 ^ fractionDigits) :
    roundFraction lead fraction 0 =
      (if 2 * fraction > 16 ^ fractionDigits then lead + 1 else lead, 0) := by
  rw [roundFraction_eq_ite]
  dsimp only
  rw [Nat.sub_zero, Nat.div_eq_of_lt below, Nat.mod_eq_of_lt below]
  by_cases up : 2 * fraction > 16 ^ fractionDigits
  · rw [if_pos up, if_pos (.inl up)]
    rfl
  · rw [if_neg up, if_neg (by omega)]

end Rounding

/-! ### Written forms -/

structure HexReal where
  lead : Nat
  digits : List Char
  exponent : Int

namespace HexReal

def body (h : HexReal) : List Char :=
  Nat.toDigits 10 h.lead ++ (if h.digits = [] then [] else '.' :: h.digits) ++
    'p' :: (if h.exponent < 0 then '-' else '+') :: Nat.toDigits 10 h.exponent.natAbs

theorem body_eq (h : HexReal) :
    Nat.toDigits 10 h.lead ++ (if h.digits.isEmpty then [] else ['.']) ++ h.digits ++
      'p' :: (if h.exponent < 0 then '-' else '+') :: Nat.toDigits 10 h.exponent.natAbs = h.body := by
  rw [body]
  cases h.digits with
  | nil => rw [List.append_nil, List.isEmpty_nil, if_pos rfl, if_pos rfl]
  | cons d ds =>
      rw [List.isEmpty_cons, if_neg Bool.false_ne_true, if_neg (List.cons_ne_nil d ds),
        List.append_assoc (Nat.toDigits 10 h.lead)]
      rfl

def text (h : HexReal) : String :=
  String.ofList ('0' :: 'x' :: h.body)

def value (h : HexReal) : ℚ :=
  (h.lead + Numeral.value 16 h.digits / 16 ^ h.digits.length) * 2 ^ h.exponent

def unit (h : HexReal) : ℚ :=
  2 ^ h.exponent / 16 ^ h.digits.length

def units (h : HexReal) : Nat :=
  h.lead * 16 ^ h.digits.length + Numeral.value 16 h.digits

variable {h : HexReal}

theorem value_eq (h : HexReal) : h.value = h.units * h.unit := by
  have positive : (0 : ℚ) < 16 ^ h.digits.length := by positivity
  rw [value, units, unit]
  push_cast
  field_simp

theorem unit_pos (h : HexReal) : 0 < h.unit := by
  rw [unit]
  positivity

/-- No number with as many digits and the same power of two is nearer, and if another one is as near,
the last digit is even. -/
structure IsNearest (h : HexReal) (x : ℚ) : Prop where
  nearest : ∀ k : ℤ, |h.value - x| ≤ |k * h.unit - x|
  even : ∀ k : ℤ, k * h.unit ≠ h.value → |k * h.unit - x| = |h.value - x| →
    ∃ d, h.digits.getLast? = some d ∧ Even (Numeral.worth 16 d)

theorem last_even (shown : h.digits ≠ []) (even : Even h.units) :
    ∃ d, h.digits.getLast? = some d ∧ Even (Numeral.worth 16 d) := by
  obtain ⟨front, d, isDigits⟩ := h.digits.eq_nil_or_concat'.resolve_left shown
  refine ⟨d, by rw [isDigits, List.getLast?_concat], ?_⟩
  rw [units, isDigits, Numeral.value_concat, List.length_append, List.length_singleton,
    pow_succ, ← Nat.mul_assoc, Nat.even_iff] at even
  rw [Nat.even_iff]
  omega

theorem isNearest_of_units {y : ℚ} (shown : h.digits ≠ []) (nearest : NearestEven h.units y) :
    h.IsNearest (y * h.unit) := by
  have distance (n : ℚ) : |n * h.unit - y * h.unit| = |n - y| * h.unit := by
    rw [← sub_mul, abs_mul, abs_of_pos h.unit_pos]
  constructor
  · intro k
    rw [value_eq, distance, distance]
    exact mul_le_mul_of_nonneg_right (nearest.nearest k) h.unit_pos.le
  · intro k other tie
    rw [value_eq, distance, distance, mul_left_inj' h.unit_pos.ne'] at tie
    apply last_even shown
    apply nearest.even k _ tie
    rintro rfl
    exact other (value_eq h).symm

end HexReal

/-! ### The hexadecimal form -/

section Forms

variable {f : Fields} {precision : Option Nat}

theorem length_text {n width : Nat} (positive : 0 < width) (below : n < 16 ^ width) :
    (Numeral.text 16 width n).length = width := by
  have short := (Nat.length_toDigits_le_iff (by decide) positive).mpr below
  rw [Numeral.text, List.length_append, List.length_replicate]
  omega

theorem value_append_zeros (ds : List Char) (count : Nat) :
    Numeral.value 16 (ds ++ List.replicate count '0') = Numeral.value 16 ds * 16 ^ count := by
  induction count with
  | zero => simp
  | succ count ih =>
      rw [List.replicate_succ', ← List.append_assoc, Numeral.value_concat, ih, Numeral.worth_zero,
        pow_succ, Nat.add_zero, Nat.mul_assoc]

def exactForm (f : Fields) (precision : Option Nat) : HexReal where
  lead := (leadAndExponent f).1
  digits := Numeral.text 16 fractionDigits f.fraction ++
    List.replicate (precision.getD fractionDigits - fractionDigits) '0'
  exponent := (leadAndExponent f).2

def roundedForm (f : Fields) (count : Nat) : HexReal where
  lead := (roundFraction (leadAndExponent f).1 f.fraction count).1
  digits := if count = 0 then []
    else Numeral.text 16 count (roundFraction (leadAndExponent f).1 f.fraction count).2
  exponent := (leadAndExponent f).2

theorem hexadecimal_of_many (many : fractionDigits ≤ precision.getD fractionDigits) :
    hexadecimal f precision = (exactForm f precision).body := by
  rw [hexadecimal]
  simp only [ge_iff_le, if_pos many]
  exact (exactForm f precision).body_eq

theorem hexadecimal_of_few {count : Nat} (few : count < fractionDigits) :
    hexadecimal f (some count) = (roundedForm f count).body := by
  rw [hexadecimal]
  simp only [ge_iff_le, Option.getD_some, if_neg (Nat.not_le.mpr few)]
  exact (roundedForm f count).body_eq

theorem length_exactForm (below : f.fraction < 16 ^ fractionDigits) :
    (exactForm f precision).digits.length =
      fractionDigits + (precision.getD fractionDigits - fractionDigits) := by
  rw [exactForm, List.length_append, List.length_replicate, length_text (by decide) below]

theorem value_exactForm (below : f.fraction < 16 ^ fractionDigits) :
    (exactForm f precision).value =
      significand f / 16 ^ fractionDigits * 2 ^ (leadAndExponent f).2 := by
  rw [HexReal.value, length_exactForm below]
  rw [exactForm, value_append_zeros, Numeral.value_text (by decide) (by decide), significand, pow_add]
  push_cast
  field_simp

theorem length_roundedForm {count : Nat} (shown : 1 ≤ count) (few : count < fractionDigits)
    (below : f.fraction < 16 ^ fractionDigits) : (roundedForm f count).digits.length = count := by
  rw [roundedForm, if_neg (by omega), length_text shown]
  exact (roundFraction_units shown few.le below).1

theorem isNearest_roundedForm {count : Nat} (shown : 1 ≤ count) (few : count < fractionDigits)
    (below : f.fraction < 16 ^ fractionDigits) :
    (roundedForm f count).IsNearest
      (significand f / 16 ^ fractionDigits * 2 ^ (leadAndExponent f).2) := by
  have length := length_roundedForm shown few below
  have units : (roundedForm f count).units =
      roundHalfEven (significand f) (16 ^ (fractionDigits - count)) := by
    rw [HexReal.units, length, significand, ← (roundFraction_units shown few.le below).2]
    rw [roundedForm, if_neg (by omega), Numeral.value_text (by decide) (by decide)]
  have nearest : NearestEven (roundedForm f count).units
      (significand f / (16 ^ (fractionDigits - count) : Nat)) := by
    rw [units]
    exact nearestEven_roundHalfEven _ (by positivity)
  have nonempty : (roundedForm f count).digits ≠ [] := by
    rw [← List.length_pos_iff, length]
    exact shown
  have scaled : (significand f / 16 ^ fractionDigits * 2 ^ (leadAndExponent f).2 : ℚ) =
      significand f / (16 ^ (fractionDigits - count) : Nat) * (roundedForm f count).unit := by
    have whole : (16 : ℚ) ^ fractionDigits = 16 ^ (fractionDigits - count) * 16 ^ count := by
      rw [← pow_add, Nat.sub_add_cancel few.le]
    rw [HexReal.unit, length, whole]
    push_cast
    field_simp
    rfl
  rw [scaled]
  exact HexReal.isNearest_of_units nonempty nearest

end Forms

/-! ### The conversion -/

section Conversion

variable {x : Float} {precision : Option Nat}

theorem conversion?_hexadecimal (precision : Option Nat) :
    conversion? (tailText precision 'a') = some ({ precision, letter := 'a' }, []) := by
  cases precision with
  | none => rfl
  | some p =>
      have ends : ∀ c ∈ ['a'].head?, c.isDigit = false := by
        rintro c ⟨⟩
        rfl
      obtain ⟨value, rest⟩ := cut_toDigits p ends
      have places : Printf.precision (tailText (some p) 'a') = (some p, ['a']) := by
        rw [tailText, Option.elim_some, List.cons_append, Printf.precision, value, rest]
      have noFlags : flags {} (tailText (some p) 'a') = ({}, tailText (some p) 'a') := rfl
      have noWidth : (tailText (some p) 'a').dropWhile Char.isDigit = tailText (some p) 'a' := rfl
      rw [conversion?, noFlags]
      simp only [noWidth, places]
      rfl

theorem justify_of_no_width {spec : Spec} {sign body : List Char} {zeros : Bool}
    (none : spec.width = 0) : spec.justify sign body zeros = sign ++ body := by
  simp only [Spec.justify, none, Nat.zero_sub, List.replicate_zero, List.append_nil,
    List.nil_append, ite_self]

/-- The conversion shows a double that is not negative as its hexadecimal form behind `0x`. -/
theorem format_hexadecimal {m : Magnitude} (stands : parts x = .finite false m)
    (precision : Option Nat) :
    format (conversionText [] none precision 'a') (.real x) =
      String.ofList ('0' :: 'x' :: hexadecimal (fields x) precision) := by
  have single : pieces ((tailText precision 'a').length + 1 + 1) ('%' :: tailText precision 'a') =
      [.conversion { precision, letter := 'a' }] := by
    rw [pieces, conversion?_hexadecimal]
    rfl
  have real : Spec.real { precision, letter := 'a' } x =
      '0' :: 'x' :: hexadecimal (fields x) precision := by
    rw [Spec.real, stands]
    change Spec.justify { precision, letter := 'a' } ['0', 'x'] _ true = _
    rw [justify_of_no_width rfl]
    rfl
  rw [format, conversionText, String.toList_ofList, List.length_cons]
  change String.ofList
    ((pieces ((tailText precision 'a').length + 1 + 1) ('%' :: tailText precision 'a')).flatMap _) = _
  rw [single, List.flatMap_singleton, ← real]
  rfl

def Shows (bits : UInt64) (precision : Option Nat) (h : HexReal) : Prop :=
  ∀ x : Float, x.toBits = bits →
    format (conversionText [] none precision 'a') (.real x) = h.text

variable {bits : UInt64} {m : Magnitude}

theorem shows_of_hexadecimal {h : HexReal} (stands : (Fields.ofBits bits).parts = .finite false m)
    (same : hexadecimal (Fields.ofBits bits) precision = h.body) : Shows bits precision h := by
  rintro x rfl
  rw [format_hexadecimal stands]
  exact congrArg (fun body => String.ofList ('0' :: 'x' :: body)) same

theorem value_of_parts (stands : (Fields.ofBits bits).parts = .finite false m) :
    m.value = significand (Fields.ofBits bits) / 16 ^ fractionDigits *
      2 ^ (leadAndExponent (Fields.ofBits bits)).2 := by
  rw [← (magnitude_of_parts stands).2, value_magnitude]

/-- With a digit or more behind the point, the conversion of a finite double that is not negative shows
so many hexadecimal digits, or thirteen if none are asked for. The number shown is the double if these
are thirteen or more. Otherwise it is the nearest with so many digits, and a half goes to the one whose
last digit is even. -/
theorem hexadecimal_is_exact_or_nearest
    (stands : (Fields.ofBits bits).parts = .finite false m) (precision : Option Nat)
    (shown : precision ≠ some 0) :
    let count := precision.getD fractionDigits
    ∃ h : HexReal, Shows bits precision h ∧
      hexadecimal (Fields.ofBits bits) precision = h.body ∧
      h.exponent = (leadAndExponent (Fields.ofBits bits)).2 ∧
      h.digits.length = count ∧ (∀ d ∈ h.digits, Numeral.isDigit 16 d = true) ∧
      (fractionDigits ≤ count → h.value = m.value) ∧
      (count < fractionDigits → h.IsNearest m.value) := by
  intro count
  have below := fraction_lt bits
  by_cases many : fractionDigits ≤ count
  · have body := hexadecimal_of_many (f := Fields.ofBits bits) many
    refine ⟨_, shows_of_hexadecimal stands body, body, rfl, ?_, ?_, ?_, by omega⟩
    · rw [length_exactForm below]
      omega
    · intro d member
      rcases List.mem_append.mp member with digit | zero
      · exact Numeral.isDigit_of_mem_text (by decide) (by decide) _ _ d digit
      · rw [(List.mem_replicate.mp zero).2]
        rfl
    · intro _
      rw [value_exactForm below, value_of_parts stands]
  · obtain ⟨p, rfl⟩ : ∃ p, precision = some p := by
      cases precision with
      | none => exact absurd le_rfl many
      | some p => exact ⟨p, rfl⟩
    -- with fewer digits than the fraction has, they are rounded
    have few : p < fractionDigits := Nat.not_le.mp many
    have digit : 1 ≤ p := Nat.one_le_iff_ne_zero.mpr fun zero => shown (congrArg some zero)
    have body := hexadecimal_of_few (f := Fields.ofBits bits) few
    refine ⟨_, shows_of_hexadecimal stands body, body, rfl, length_roundedForm digit few below, ?_,
      by omega, ?_⟩
    · rw [roundedForm, if_neg (by omega)]
      exact Numeral.isDigit_of_mem_text (by decide) (by decide) _ _
    · intro _
      rw [value_of_parts stands]
      exact isNearest_roundedForm digit few below

/-- The greatest double below two, where rounding to one digit carries into the leading one. -/
theorem carry_into_leading_digit :
    let bits : UInt64 := 0x3FFFFFFFFFFFFFFF
    let m : Magnitude := ⟨9007199254740991, -52⟩
    (Fields.ofBits bits).parts = .finite false m ∧ some 1 ≠ some 0 ∧
      ∃ h : HexReal, h.text = "0x2.0p+0" ∧ h.digits.length = 1 ∧ h.IsNearest m.value := by
  intro bits m
  have stands : (Fields.ofBits 0x3FFFFFFFFFFFFFFF).parts =
      .finite false ⟨9007199254740991, -52⟩ := by rfl
  have same : (Float.ofBits 0x3FFFFFFFFFFFFFFF).toBits = 0x3FFFFFFFFFFFFFFF := by rfl
  have one : some 1 ≠ some 0 := by decide
  obtain ⟨h, shows, _, _, length, _, _, nearest⟩ :=
    hexadecimal_is_exact_or_nearest stands (some 1) one
  have text : format (conversionText [] none (some 1) 'a') (.real (Float.ofBits bits)) =
      "0x2.0p+0" := by decide +kernel
  exact ⟨stands, one, h, by rw [← text, shows _ same], length, nearest (by decide)⟩

/-! ### No digits -/

/-- The significand is the leading digit and the fraction. -/
theorem significand_div_mod {f : Fields} (below : f.fraction < 16 ^ fractionDigits) :
    significand f / 16 ^ fractionDigits = (leadAndExponent f).1 ∧
      significand f % 16 ^ fractionDigits = f.fraction := by
  rw [significand]
  constructor
  · rw [Nat.add_comm, Nat.add_mul_div_right _ _ (by positivity), Nat.div_eq_of_lt below,
      Nat.zero_add]
  · rw [Nat.mul_add_mod_self_right, Nat.mod_eq_of_lt below]

theorem roundsTo_roundFraction_zero {f : Fields} (below : f.fraction < 16 ^ fractionDigits) :
    RoundsTo (significand f) (16 ^ fractionDigits)
      (roundFraction (leadAndExponent f).1 f.fraction 0).1 := by
  obtain ⟨quotient, rest⟩ := significand_div_mod below
  refine ⟨by positivity, ?_⟩
  rw [quotient, rest, roundFraction_zero below]
  by_cases up : 2 * f.fraction > 16 ^ fractionDigits
  · rw [if_pos up]
    exact .inr ⟨rfl, up.le⟩
  · rw [if_neg up]
    exact .inl ⟨rfl, Nat.not_lt.mp up⟩

theorem lead_of_half {f : Fields} (half : 2 * f.fraction = 16 ^ fractionDigits) :
    (leadAndExponent f).1 = if f.biased = 0 then 0 else 1 := by
  have nonzero : f.fraction ≠ 0 := by
    intro zero
    rw [zero] at half
    exact absurd half (by decide)
  rw [leadAndExponent, if_neg nonzero]
  split <;> rfl

/-- Without digits behind the point, the conversion of a finite double that is not negative shows a
whole number nearest to the significand. If there are two, it shows the lower one, which is even if
and only if the double is not normal. -/
theorem hexadecimal_without_digits (stands : (Fields.ofBits bits).parts = .finite false m) :
    let f := Fields.ofBits bits
    let exact : ℚ := significand f / (16 ^ fractionDigits : Nat)
    ∃ lead : Nat, Shows bits (some 0) ⟨lead, [], (leadAndExponent f).2⟩ ∧
      hexadecimal f (some 0) = HexReal.body ⟨lead, [], (leadAndExponent f).2⟩ ∧
      m.value = exact * 2 ^ (leadAndExponent f).2 ∧
      (∀ k : ℤ, |lead - exact| ≤ |k - exact|) ∧
      (2 * f.fraction = 16 ^ fractionDigits → lead = (leadAndExponent f).1) ∧
      (NearestEven lead exact ↔ ¬(f.biased ≠ 0 ∧ 2 * f.fraction = 16 ^ fractionDigits)) := by
  intro f exact
  have below : f.fraction < 16 ^ fractionDigits := fraction_lt bits
  have rounds := roundsTo_roundFraction_zero below
  have body := hexadecimal_of_few (f := f) (by decide : 0 < fractionDigits)
  -- a half always goes down to the leading digit, which is odd for normal doubles
  have down (half : 2 * f.fraction = 16 ^ fractionDigits) :
      (roundFraction (leadAndExponent f).1 f.fraction 0).1 = (leadAndExponent f).1 := by
    rw [roundFraction_zero below, if_neg (by omega)]
  refine ⟨_, shows_of_hexadecimal stands body, body, ?_, rounds.nearest, down, ?_⟩
  · rw [value_of_parts stands]
    norm_cast
  · rw [rounds.nearestEven_iff, (significand_div_mod below).2]
    constructor
    · rintro even ⟨normal, half⟩
      have even := even half
      rw [down half, lead_of_half half, if_neg normal] at even
      exact absurd even (by decide)
    · intro other half
      have subnormal : f.biased = 0 := by
        by_contra normal
        exact other ⟨normal, half⟩
      rw [down half, lead_of_half half, if_pos subnormal]

/-- Half of the least normal double, with a significand between zero and one. -/
theorem half_of_least_normal_without_digits :
    let bits : UInt64 := 0x0008000000000000
    (Fields.ofBits bits).parts = .finite false ⟨2251799813685248, -1074⟩ ∧
      ∃ lead : Nat, Shows bits (some 0) ⟨lead, [], -1022⟩ ∧ lead = 0 ∧
        NearestEven lead (2251799813685248 / (16 ^ fractionDigits : Nat)) := by
  intro bits
  have stands : (Fields.ofBits 0x0008000000000000).parts =
      .finite false ⟨2251799813685248, -1074⟩ := by rfl
  obtain ⟨lead, shows, _, _, _, down, even⟩ := hexadecimal_without_digits stands
  refine ⟨stands, lead, shows, down (by decide), even.mpr ?_⟩
  rintro ⟨normal, _⟩
  exact normal rfl

/-- One and a half is as near to two, which is even, as to one, which is shown. -/
theorem one_and_half_without_digits :
    (Fields.ofBits 0x3FF8000000000000).parts = .finite false ⟨6755399441055744, -52⟩ ∧
      Magnitude.value ⟨6755399441055744, -52⟩ = 3 / 2 ∧
      format (conversionText [] none (some 0) 'a') (.real (Float.ofBits 0x3FF8000000000000)) =
        "0x1p+0" ∧
      ¬NearestEven 1 (3 / 2) := by
  refine ⟨by rfl, ?_, by decide +kernel, ?_⟩
  · norm_num [Magnitude.value]
  · intro nearest
    have even := nearest.even 2 (by decide) (by norm_num)
    exact absurd even (by decide)

end Conversion

end TemplateCalc.Printf
