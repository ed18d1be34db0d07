import Mathlib.Data.List.Induction
import Mathlib.Data.Nat.Digits.Defs
import TemplateCalc.Proofs.Rendered

/-!
Rows of digits as numbers.

A row of digits denotes the sum of their values, each times a power of the radix. Zeros in front do
not count, and neither does the case of letters.
-/

set_option autoImplicit false

namespace TemplateCalc.Numeral

def worth (radix : Nat) (c : Char) : Nat :=
  (digit? radix c).getD 0

theorem value_concat (radix : Nat) (ds : List Char) (c : Char) :
    value radix (ds ++ [c]) = value radix ds * radix + worth radix c := by
  rw [value, List.foldl_append]
  rfl

theorem value_eq_ofDigits (radix : Nat) (ds : List Char) :
    value radix ds = Nat.ofDigits radix (ds.reverse.map (worth radix)) := by
  induction ds using List.reverseRecOn with
  | nil => rfl
  | append_singleton ds c ih =>
      rw [value_concat, ih, List.reverse_append, List.reverse_singleton, List.singleton_append,
        List.map_cons, Nat.ofDigits_cons, Nat.mul_comm, Nat.add_comm]

theorem worth_zero (radix : Nat) : worth radix '0' = 0 := by
  have zero : digitWorth? '0' = some 0 := rfl
  rw [worth, digit?, zero, Option.filter_some]
  split <;> rfl

theorem value_zeros (radix zeros : Nat) (ds : List Char) :
    value radix (List.replicate zeros '0' ++ ds) = value radix ds := by
  rw [value_eq_ofDigits, value_eq_ofDigits, List.reverse_append, List.reverse_replicate,
    List.map_append, List.map_replicate, worth_zero, Nat.ofDigits_append_replicate_zero]

/-! ### The case of letters -/

theorem forall_ascii {P : Char → Prop} (each : ∀ n < 0x80, P (Char.ofNat n)) {c : Char}
    (ascii : c.toNat < 0x80) : P c := by
  have found := each c.toNat ascii
  rwa [Char.ofNat_toNat] at found

theorem toLower_eq_self {c : Char} (outside : c.toNat < 65 ∨ 90 < c.toNat) : c.toLower = c := by
  apply dif_neg
  rintro ⟨above, below⟩
  have above : 65 ≤ c.toNat := above
  have below : c.toNat ≤ 90 := below
  omega

theorem toUpper_eq_self {c : Char} (outside : c.toNat < 97 ∨ 122 < c.toNat) : c.toUpper = c := by
  apply dif_neg
  rintro ⟨above, below⟩
  have above : 97 ≤ c.toNat := above
  have below : c.toNat ≤ 122 := below
  omega

theorem digitWorth?_cases (c : Char) :
    digitWorth? c.toLower = digitWorth? c ∧ digitWorth? c.toUpper = digitWorth? c := by
  by_cases ascii : c.toNat < 0x80
  · refine forall_ascii (P := fun c => digitWorth? c.toLower = digitWorth? c ∧
      digitWorth? c.toUpper = digitWorth? c) ?_ ascii
    decide
  · rw [toLower_eq_self (by omega), toUpper_eq_self (by omega)]
    exact ⟨rfl, rfl⟩

theorem digit?_toLower (radix : Nat) (c : Char) : digit? radix c.toLower = digit? radix c := by
  rw [digit?, (digitWorth?_cases c).1, digit?]

theorem digit?_toUpper (radix : Nat) (c : Char) : digit? radix c.toUpper = digit? radix c := by
  rw [digit?, (digitWorth?_cases c).2, digit?]

/-- A row of digits denotes the same number in letters of another case. -/
theorem value_map {radix : Nat} {change : Char → Char}
    (same : ∀ c, digit? radix (change c) = digit? radix c) (ds : List Char) :
    value radix (ds.map change) = value radix ds := by
  rw [value, List.foldl_map, value]
  simp only [same]

theorem isDigit_map {radix : Nat} {change : Char → Char}
    (same : ∀ c, digit? radix (change c) = digit? radix c) {ds : List Char} :
    (∀ c ∈ ds.map change, isDigit radix c = true) ↔ ∀ c ∈ ds, isDigit radix c = true := by
  simp only [List.forall_mem_map, isDigit, same]

end TemplateCalc.Numeral
