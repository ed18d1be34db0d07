import Mathlib.Algebra.Group.Int.Defs
import Mathlib.Algebra.Group.Nat.Defs
import TemplateCalc.Proofs.Rendered

/-!
Reading back integers in binary.

An integer in binary is shown with as many bits as its field has, and with more if it needs them. The
number of bits is kept in 32 bits before it is brought into the range of a word. In fields of half a
gibibyte and more it is therefore too small, and bits of the integer may be missing.
-/

set_option autoImplicit false

namespace TemplateCalc

namespace Render

/-! ### The number of bits -/

theorem toNat_toUInt64_inj {m n : Int64} : m.toUInt64.toNat = n.toUInt64.toNat ↔ m = n := by
  constructor
  · intro same
    rw [← Int64.toInt64_toUInt64 m, UInt64.toNat_inj.mp same, Int64.toInt64_toUInt64]
  · rintro rfl
    rfl

theorem lt_two_pow_iff (n : Int64) (count : Nat) :
    n.toUInt64.toNat < 2 ^ count ↔ significantBits n ≤ count := by
  rw [significantBits]
  by_cases zero : n = 0
  · rw [if_pos zero, zero]
    exact ⟨fun _ => Nat.zero_le count, fun _ => Nat.two_pow_pos count⟩
  · have positive : n.toUInt64.toNat ≠ 0 := fun none => zero (toNat_toUInt64_inj.mp none)
    rw [if_neg zero, ← Nat.log2_lt positive]
    exact Iff.rfl

theorem significantBits_le (n : Int64) : significantBits n ≤ 64 :=
  (lt_two_pow_iff n 64).mp n.toUInt64.toNat_lt

def shownBits (n : Int64) (bytes : Nat) : Nat :=
  max 1 (min (bitWidth n bytes) 64)

theorem significantBits_le_shownBits (n : Int64) {bytes : Nat} (small : bytes < 2 ^ 29) :
    significantBits n ≤ shownBits n bytes := by
  have most := significantBits_le n
  have size : UInt32.size = 2 ^ 32 := rfl
  rw [shownBits, bitWidth, size]
  omega

theorem shownBits_of_large (n : Int64) {bytes : Nat} (large : 2 ^ 29 ≤ bytes) :
    shownBits n bytes = max 1 (min (8 * (bytes % 2 ^ 29)) 64) := by
  have most := significantBits_le n
  have size : UInt32.size = 2 ^ 32 := rfl
  rw [shownBits, bitWidth, size]
  omega

theorem int_bin (n : Int64) (bytes : Nat) (unsigned : Bool) (cfg : FormatOptions) :
    int n "bin" bytes unsigned cfg = String.ofList (Grouping.fromRight ' ' 8
      (Numeral.text 2 (shownBits n bytes) (n.toUInt64.toNat % 2 ^ shownBits n bytes))) := by
  simp [int, intAs, Grouping.binary, shownBits]

end Render

namespace Calculator

variable {σ : Type}

def lowBits (n : Int64) (count : Nat) : Int64 :=
  Int64.ofNat (n.toUInt64.toNat % 2 ^ count)

theorem toNat_lowBits (n : Int64) (count : Nat) :
    (lowBits n count).toUInt64.toNat = n.toUInt64.toNat % 2 ^ count := by
  have less : n.toUInt64.toNat % 2 ^ count < 2 ^ 64 :=
    Nat.lt_of_le_of_lt (Nat.mod_le _ _) n.toUInt64.toNat_lt
  rw [lowBits, Int64.toUInt64_ofNat', UInt64.toNat_ofNat_of_lt' less]

theorem lowBits_eq_self_iff (n : Int64) (count : Nat) :
    lowBits n count = n ↔ Render.significantBits n ≤ count := by
  rw [← Render.lt_two_pow_iff, ← Render.toNat_toUInt64_inj, toNat_lowBits]
  exact Nat.mod_eq_iff_lt (Nat.ne_of_gt (Nat.two_pow_pos count))

/-- The bits that are shown of an integer are read again. -/
theorem shown_bits_read_back (env : Surroundings σ) {options : EvalOptions} (c : Calculator σ)
    (n : Int64) (size : Int) (unsigned : Bool) (cfg : FormatOptions) (room : 1 ≤ options.maxDepth)
    (divided : options.digitSeparators = true) (binary : options.radix = 2) :
    (c.evaluate env options ((Value.int n).render "bin" size unsigned cfg)).result =
      .ok (.int (lowBits n (Render.shownBits n size.toNat))) := by
  have rules : options.rules = ⟨2, some options.separator⟩ := by
    rw [EvalOptions.rules, if_pos divided, binary]
    rfl
  apply result_of_int env c ?_ room
  rw [rules, Value.render, Render.int_bin, ← toNat_lowBits]
  exact Scan.scan_blank_digits (by decide) (.inl (by decide)) _ _ _ _

/-- An integer in binary is read again if its field has less than `2 ^ 29` bytes. In larger fields only
as many bits are shown, from 1 to 64, as the excess over a multiple of `2 ^ 29` bytes has, and the
integer is read again if and only if it has no others. -/
theorem binary_reads_back_iff (env : Surroundings σ) (options : EvalOptions) (c : Calculator σ)
    (n : Int64) (size : Int) (unsigned : Bool) (cfg : FormatOptions) (room : 1 ≤ options.maxDepth)
    (divided : options.digitSeparators = true) (binary : options.radix = 2) :
    let result := (c.evaluate env options ((Value.int n).render "bin" size unsigned cfg)).result
    (size < 2 ^ 29 → result = .ok (.int n)) ∧
      (2 ^ 29 ≤ size →
        let count := max 1 (min (8 * (size.toNat % 2 ^ 29)) 64)
        result = .ok (.int (lowBits n count)) ∧
          (result = .ok (.int n) ↔ Render.significantBits n ≤ count)) := by
  intro result
  have shown : result = .ok (.int (lowBits n (Render.shownBits n size.toNat))) :=
    shown_bits_read_back env c n size unsigned cfg room divided binary
  constructor
  · intro small
    have enough := Render.significantBits_le_shownBits n (by omega : size.toNat < 2 ^ 29)
    rw [shown, (lowBits_eq_self_iff n _).mpr enough]
  · intro large count
    rw [Render.shownBits_of_large n (by omega : 2 ^ 29 ≤ size.toNat)] at shown
    refine ⟨shown, ?_⟩
    rw [shown, Except.ok.injEq, Value.int.injEq]
    exact lowBits_eq_self_iff n count

/-- Fields around the limit, and an integer of nine bits. -/
theorem nine_bits_around_limit :
    let c : Calculator Unit := { random := Random.ofSeed 0, dialog := () }
    let options : EvalOptions := { radix := 2, digitSeparators := true, maxDepth := 1 }
    let result (size : Int) :=
      (c.evaluate ⟨Host.none, none, 0⟩ options ((Value.int 511).render "bin" size false {})).result
    result (2 ^ 29 - 1) = .ok (.int 511) ∧ result (2 ^ 29 + 1) = .ok (.int 255) ∧
      result (2 ^ 29 + 2) = .ok (.int 511) := by
  intro c options result
  have reads (size : Int) := binary_reads_back_iff ⟨Host.none, none, 0⟩ options c 511 size false {}
    (by decide : 1 ≤ 1) rfl rfl
  refine ⟨(reads _).1 (by decide), ((reads _).2 (by decide)).1, ?_⟩
  exact ((reads _).2 (by decide)).2.mpr (by decide)

/-- An integer of two bits, in a field of which none is shown but the lowest. -/
theorem two_in_field_at_limit :
    let c : Calculator Unit := { random := Random.ofSeed 0, dialog := () }
    let options : EvalOptions := { radix := 2, digitSeparators := true, maxDepth := 1 }
    let text := (Value.int 2).render "bin" (2 ^ 29) false {}
    text = "0" ∧ (c.evaluate ⟨Host.none, none, 0⟩ options text).result = .ok (.int 0) ∧
      (0 : Int64) ≠ 2 := by
  intro c options text
  refine ⟨by decide +kernel, ?_, by decide⟩
  exact shown_bits_read_back ⟨Host.none, none, 0⟩ c 2 (2 ^ 29) false {} (by decide : 1 ≤ 1) rfl rfl

end Calculator

end TemplateCalc
