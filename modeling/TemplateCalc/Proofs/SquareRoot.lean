import Mathlib.Data.Nat.Sqrt
import TemplateCalc.Function.Apply

/-!
Square roots of integers.

An estimate is lowered and then raised until it is the square root. Words serve for this although the
square of an estimate may not be a word: whatever the estimate is, no word falls below zero on the way
and none exceeds the greatest one.
-/

set_option autoImplicit false

namespace TemplateCalc.Numeric

/-! ### Words -/

def square? (r : UInt64) : Option UInt64 :=
  if r.toNat * r.toNat < UInt64.size then some (r * r) else none

def above? (r : UInt64) : Option UInt64 :=
  if r.toNat + 1 < UInt64.size then some (r + 1) else none

def below? (r : UInt64) : Option UInt64 :=
  if r = 0 then none else some (r - 1)

variable {n r next : UInt64}

theorem toNat_of_square? (found : square? r = some next) : next.toNat = r.toNat * r.toNat := by
  unfold square? at found
  split at found
  · rename_i small
    cases found
    rw [UInt64.toNat_mul]
    exact Nat.mod_eq_of_lt small
  · cases found

theorem toNat_of_above? (found : above? r = some next) : next.toNat = r.toNat + 1 := by
  unfold above? at found
  split at found
  · rename_i small
    cases found
    rw [UInt64.toNat_add]
    exact Nat.mod_eq_of_lt small
  · cases found

theorem toNat_of_below? (found : below? r = some next) : r.toNat = next.toNat + 1 := by
  unfold below? at found
  split at found
  · cases found
  · rename_i nonzero
    cases found
    have positive : 1 ≤ r.toNat :=
      Nat.one_le_iff_ne_zero.mpr fun zero => nonzero (UInt64.toNat_inj.mp zero)
    rw [UInt64.toNat_sub_of_le r 1 (UInt64.le_iff_toNat_le.mpr positive)]
    exact (Nat.sub_add_cancel positive).symm

theorem above?_isSome (small : r.toNat + 1 < UInt64.size) : ∃ next, above? r = some next :=
  ⟨r + 1, if_pos small⟩

theorem below?_isSome (positive : 0 < r.toNat) : ∃ next, below? r = some next := by
  refine ⟨r - 1, if_neg ?_⟩
  rintro rfl
  exact Nat.lt_irrefl 0 positive

/-- A square that is no word is above every word. -/
theorem square?_all_iff :
    (square? r).all (· > n) = true ↔ n.toNat < r.toNat * r.toNat := by
  have bound := n.toNat_lt_size
  cases found : square? r with
  | some square =>
      rw [← toNat_of_square? found]
      simp [UInt64.lt_iff_toNat_lt]
  | none =>
      have large : ¬r.toNat * r.toNat < UInt64.size := by simpa [square?] using found
      simp only [Option.all_none, true_iff]
      omega

theorem square?_any_iff :
    (square? r).any (· ≤ n) = true ↔ r.toNat * r.toNat ≤ n.toNat := by
  have others : (square? r).any (· ≤ n) = !(square? r).all (· > n) := by
    cases square? r with
    | none => rfl
    | some square => simp [← UInt64.not_lt]
  rw [others, Bool.not_eq_true', Bool.eq_false_iff, ne_eq, square?_all_iff, Nat.not_lt]

/-! ### The root in words -/

/-- Lowers a word until its square is a word and at most `n`, if it does not fall below zero. -/
def lowerWord? (n r : UInt64) : Option UInt64 :=
  if (square? r).all (· > n) then
    match _found : below? r with
    | none => none
    | some next => lowerWord? n next
  else some r
termination_by r.toNat
decreasing_by
  have lowered := toNat_of_below? _found
  omega

/-- Raises a word while the square of the word above is a word and at most `n`, if there is always a
word above. -/
def raiseWord? (n r : UInt64) : Option UInt64 :=
  match _found : above? r with
  | none => none
  | some next => if (square? next).any (· ≤ n) then raiseWord? n next else some r
termination_by UInt64.size - r.toNat
decreasing_by
  have bound := next.toNat_lt_size
  have raised := toNat_of_above? _found
  omega

def rootWord? (n estimate : UInt64) : Option UInt64 :=
  (lowerWord? n estimate).bind (raiseWord? n)

/-- Zero is never lowered, since its square is not above any word. -/
theorem lowerWord?_eq_lowerRoot (n r : UInt64) :
    ∃ low, lowerWord? n r = some low ∧ low.toNat = lowerRoot n.toNat r.toNat := by
  fun_induction lowerWord? n r with
  | case1 r large noneBelow =>
      rw [square?_all_iff] at large
      -- zero is small enough, so there is a word below
      have positive : 0 < r.toNat := by
        apply Nat.pos_of_ne_zero
        intro zero
        rw [zero] at large
        exact absurd large (Nat.not_lt_zero _)
      obtain ⟨next, found⟩ := below?_isSome positive
      rw [found] at noneBelow
      cases noneBelow
  | case2 r large next found ih =>
      rw [square?_all_iff] at large
      obtain ⟨low, lowered, same⟩ := ih
      refine ⟨low, lowered, ?_⟩
      rw [toNat_of_below? found] at large ⊢
      rw [same, lowerRoot, if_neg (Nat.not_le.mpr large)]
  | case3 r small =>
      rw [square?_all_iff, Nat.not_lt] at small
      refine ⟨r, rfl, ?_⟩
      cases exactly : r.toNat with
      | zero => rfl
      | succ m =>
          rw [exactly] at small
          rw [lowerRoot, if_pos small]

/-- The square of the greatest word is no word, so a root has a word above. -/
theorem raiseWord?_eq_raiseRoot (low : r.toNat * r.toNat ≤ n.toNat) :
    ∃ root, raiseWord? n r = some root ∧ root.toNat = raiseRoot n.toNat r.toNat := by
  fun_induction raiseWord? n r with
  | case1 r noneAbove =>
      have bound := n.toNat_lt_size
      have small : r.toNat < 2 ^ 32 := Nat.mul_self_lt_mul_self_iff.mp (Nat.lt_of_le_of_lt low bound)
      obtain ⟨next, found⟩ := above?_isSome (Nat.lt_of_le_of_lt small (by decide))
      rw [found] at noneAbove
      cases noneAbove
  | case2 r next found fits ih =>
      rw [square?_any_iff] at fits
      obtain ⟨root, raised, same⟩ := ih fits
      refine ⟨root, raised, ?_⟩
      rw [toNat_of_above? found] at fits same
      rw [same, raiseRoot.eq_def n.toNat r.toNat, dif_pos fits]
  | case3 r next found exceeds =>
      rw [square?_any_iff, toNat_of_above? found] at exceeds
      refine ⟨r, rfl, ?_⟩
      rw [raiseRoot, dif_neg exceeds]

/-! ### The root -/

theorem lowerRoot_le (n r : Nat) : lowerRoot n r * lowerRoot n r ≤ n := by
  induction r with
  | zero => exact Nat.zero_le n
  | succ r ih =>
      rw [lowerRoot]
      split
      · assumption
      · exact ih

theorem raiseRoot_eq_sqrt {n r : Nat} (low : r * r ≤ n) : raiseRoot n r = Nat.sqrt n := by
  fun_induction raiseRoot n r with
  | case1 r fits ih => exact ih fits
  | case2 r exceeds => exact Nat.eq_sqrt.mpr ⟨low, Nat.not_le.mp exceeds⟩

theorem rootFrom_eq_sqrt (n estimate : Nat) : rootFrom n estimate = Nat.sqrt n :=
  raiseRoot_eq_sqrt (lowerRoot_le n estimate)

theorem rootWord?_eq_rootFrom (n estimate : UInt64) :
    ∃ root, rootWord? n estimate = some root ∧ root.toNat = rootFrom n.toNat estimate.toNat := by
  obtain ⟨low, lowered, same⟩ := lowerWord?_eq_lowerRoot n estimate
  have small : low.toNat * low.toNat ≤ n.toNat := by
    rw [same]
    exact lowerRoot_le n.toNat estimate.toNat
  obtain ⟨root, raised, same'⟩ := raiseWord?_eq_raiseRoot small
  refine ⟨root, ?_, ?_⟩
  · rw [rootWord?, lowered, Option.bind_some, raised]
  · rw [same', same]
    rfl

theorem toNat_toUInt64_of_nonneg {m : Int64} (nonneg : 0 ≤ m) :
    m.toUInt64.toNat = m.toInt.toNat := by
  have bound := m.toUInt64.toNat_lt
  have nonneg' : 0 ≤ m.toInt := Int64.le_iff_toInt_le.mp nonneg
  have signed : m.toInt = (m.toUInt64.toNat : Int).bmod (2 ^ 64) := BitVec.toInt_eq_toNat_bmod _
  rw [Int.bmod_def] at signed
  omega

theorem result?_sqrt (now : Float) {m : Int64} (nonneg : 0 ≤ m) :
    Function.sqrt.result? now [.int m] =
      some (.ok (.int (Int64.ofNat (Nat.sqrt m.toInt.toNat)))) := by
  have result : Function.sqrt.result? now [.int m] = some (sqrt (.int m)) := rfl
  rw [result, sqrt, if_neg (Int64.not_lt.mpr nonneg), isqrt, rootFrom_eq_sqrt,
    toNat_toUInt64_of_nonneg nonneg]

theorem toInt_ofNat_sqrt (m : Int64) :
    (Int64.ofNat (Nat.sqrt m.toInt.toNat)).toInt = Nat.sqrt m.toInt.toNat := by
  have least := Nat.sqrt_le_self m.toInt.toNat
  have most := m.toInt_lt
  rw [Int64.toInt_ofNat_of_lt]
  omega

/-- Whatever the estimate is, lowering and raising it stays within the words and ends with the square
root, which no other number is; and the function gives it for each integer that is not negative. -/
theorem any_estimate_leads_to_root (now : Float) :
    (∀ n estimate : UInt64, ∃ root, rootWord? n estimate = some root ∧
      root.toNat = rootFrom n.toNat estimate.toNat ∧
      ∀ k : Nat, k * k ≤ n.toNat ∧ n.toNat < (k + 1) * (k + 1) ↔ k = root.toNat) ∧
    ∀ m : Int64, 0 ≤ m → ∃ root : Int64,
      Function.sqrt.result? now [.int m] = some (.ok (.int root)) ∧ 0 ≤ root.toInt ∧
        root.toInt * root.toInt ≤ m.toInt ∧ m.toInt < (root.toInt + 1) * (root.toInt + 1) := by
  constructor
  · intro n estimate
    obtain ⟨root, found, same⟩ := rootWord?_eq_rootFrom n estimate
    refine ⟨root, found, same, fun k => ?_⟩
    rw [same, rootFrom_eq_sqrt, Nat.eq_sqrt]
  · intro m nonneg
    have exactly := toInt_ofNat_sqrt m
    have whole : (m.toInt.toNat : Int) = m.toInt :=
      Int.toNat_of_nonneg (Int64.le_iff_toInt_le.mp nonneg)
    have below := Nat.sqrt_le m.toInt.toNat
    have above := Nat.lt_succ_sqrt m.toInt.toNat
    refine ⟨_, result?_sqrt now nonneg, ?_, ?_, ?_⟩
    · rw [exactly]
      exact Int.natCast_nonneg _
    · rw [exactly]
      exact_mod_cast whole ▸ Int.ofNat_le.mpr below
    · rw [exactly]
      exact_mod_cast whole ▸ Int.ofNat_lt.mpr above

/-- The greatest integer, which is no double. -/
theorem root_of_greatest_integer :
    let m : Int64 := Int64.maxValue
    0 ≤ m ∧ ∃ root : Int64, Function.sqrt.result? 0 [.int m] = some (.ok (.int root)) ∧
      0 ≤ root.toInt ∧ root.toInt * root.toInt ≤ m.toInt ∧
      m.toInt < (root.toInt + 1) * (root.toInt + 1) := by
  intro m
  have nonneg : 0 ≤ m := by decide
  exact ⟨nonneg, (any_estimate_leads_to_root 0).2 m nonneg⟩

end TemplateCalc.Numeric
