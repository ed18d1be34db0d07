import TemplateCalc.Function.Strings
import TemplateCalc.Proofs.Positional

/-!
Integers at the front of texts.

The integer at the front of a text is the exact integer with the sign and the digits there, brought
into the range of 64 bits at the end. The sum of the digits is kept below a bound on the way; this
never shows, since the bound is beyond the range, and a sum that has reached it never falls below it.
-/

set_option autoImplicit false

namespace TemplateCalc.Strings

/-! ### The digits that count -/

/-- Whether a character does not end a number: a digit of the radix, or neither letter nor numeral. -/
def goesOn (radix : Nat) (c : Char) : Bool :=
  !Text.isAlphanumeric c || Numeral.isDigit radix c

def frontDigits (radix : Nat) (cs : List Char) : List Char :=
  (cs.takeWhile (goesOn radix)).filter (Numeral.isDigit radix)

section Digits

variable {radix : Nat} {c : Char} {cs : List Char}

theorem frontDigits_cons_digit (digit : Numeral.isDigit radix c = true) :
    frontDigits radix (c :: cs) = c :: frontDigits radix cs := by
  have goes : goesOn radix c = true := by
    rw [goesOn, digit, Bool.or_true]
  rw [frontDigits, List.takeWhile_cons_of_pos goes, List.filter_cons_of_pos digit]
  rfl

theorem frontDigits_cons_end (digit : Numeral.isDigit radix c = false)
    (alphanumeric : Text.isAlphanumeric c = true) : frontDigits radix (c :: cs) = [] := by
  have ends : ¬goesOn radix c = true := by
    rw [goesOn, digit, alphanumeric]
    exact Bool.false_ne_true
  rw [frontDigits, List.takeWhile_cons_of_neg ends]
  rfl

theorem frontDigits_cons_skip (digit : Numeral.isDigit radix c = false)
    (alphanumeric : Text.isAlphanumeric c = false) :
    frontDigits radix (c :: cs) = frontDigits radix cs := by
  have goes : goesOn radix c = true := by
    rw [goesOn, alphanumeric]
    rfl
  rw [frontDigits, List.takeWhile_cons_of_pos goes,
    List.filter_cons_of_neg (by rw [digit]; exact Bool.false_ne_true)]
  rfl

end Digits

/-! ### Sums below a bound -/

/-- A sum that was cut off at the bound is cut off there again. -/
theorem min_mul_add_min {radix : Nat} (positive : 0 < radix) (total d bound : Nat) :
    min (min total bound * radix + d) bound = min (total * radix + d) bound := by
  rcases Nat.le_total total bound with below | above
  · rw [Nat.min_eq_left below]
  · have grows : bound ≤ bound * radix := Nat.le_mul_of_pos_right bound positive
    have grows' : bound * radix ≤ total * radix := Nat.mul_le_mul_right radix above
    rw [Nat.min_eq_right above]
    omega

/-- The digits are added up exactly until the sum reaches the bound, where it stays. -/
theorem sumDigits_eq_min {radix : Nat} (positive : 0 < radix) (cs : List Char) (total : Nat) :
    sumDigits radix (min total (UInt64.size - 1)) cs =
      min ((frontDigits radix cs).foldl (fun sum c => sum * radix + Numeral.worth radix c) total)
        (UInt64.size - 1) := by
  induction cs generalizing total with
  | nil => rfl
  | cons c cs ih =>
      rw [sumDigits]
      -- a digit is added, another character ends the number or is skipped
      cases found : Numeral.digit? radix c with
      | some d =>
          have digit : Numeral.isDigit radix c = true := by
            rw [Numeral.isDigit, found]
            rfl
          have worth : Numeral.worth radix c = d := by
            rw [Numeral.worth, found]
            rfl
          simp only
          rw [frontDigits_cons_digit digit, List.foldl_cons, worth, min_mul_add_min positive, ih]
      | none =>
          have noDigit : Numeral.isDigit radix c = false := by
            rw [Numeral.isDigit, found]
            rfl
          cases alphanumeric : Text.isAlphanumeric c with
          | true =>
              rw [frontDigits_cons_end noDigit alphanumeric]
              rfl
          | false =>
              rw [frontDigits_cons_skip noDigit alphanumeric]
              exact ih total

theorem sumDigits_zero {radix : Nat} (positive : 0 < radix) (cs : List Char) :
    sumDigits radix 0 cs =
      min (Numeral.value radix (frontDigits radix cs)) (UInt64.size - 1) :=
  sumDigits_eq_min positive cs 0

/-! ### The range of 64 bits -/

theorem toInt_saturate (n : Int) : (saturate n).toInt = max (-2 ^ 63) (min n (2 ^ 63 - 1)) := by
  have least : Int64.minValue.toInt = -2 ^ 63 := rfl
  have greatest : Int64.maxValue.toInt = 2 ^ 63 - 1 := rfl
  rw [saturate, least, greatest, Int64.toInt_ofInt_of_le (by omega) (by omega)]

theorem saturate_toInt (n : Int64) : saturate n.toInt = n := by
  have least := n.le_toInt
  have most := n.toInt_lt
  rw [← Int64.toInt_inj, toInt_saturate]
  omega

/-- The bound of the sum is beyond the range, with either sign. -/
theorem saturate_min (n : Nat) :
    saturate (min n (UInt64.size - 1) : Nat) = saturate n ∧
      saturate (-(min n (UInt64.size - 1) : Nat)) = saturate (-n) := by
  have size : UInt64.size = 2 ^ 64 := rfl
  rw [← Int64.toInt_inj, ← Int64.toInt_inj]
  simp only [toInt_saturate]
  omega

/-! ### The integer -/

/-- The radix that a number stands for: 0 for ten, and others for the nearest from 2 to 36. -/
def radixOf (radix : Nat) : Nat :=
  if radix = 0 then 10 else max 2 (min radix 36)

def behindSign : List Char → List Char
  | '-' :: cs => cs
  | '+' :: cs => cs
  | cs => cs

def withSign : List Char → Nat → Int
  | '-' :: _, n => -n
  | _, n => n

theorem radixOf_pos (radix : Nat) : 0 < radixOf radix := by
  unfold radixOf
  split <;> omega

theorem unsigned_of {cs : List Char} (noMinus : ∀ rest, cs ≠ '-' :: rest)
    (noPlus : ∀ rest, cs ≠ '+' :: rest) : behindSign cs = cs ∧ ∀ n : Nat, withSign cs n = n := by
  rw [behindSign]
  · refine ⟨rfl, fun n => ?_⟩
    rw [withSign]
    exact noMinus
  · exact noMinus
  · exact noPlus

theorem leadingInteger_eq (s : String) (radix : Nat) :
    leadingInteger s radix =
      saturate (withSign (Text.skipBlanks s.toList)
        (Numeral.value (radixOf radix)
          (frontDigits (radixOf radix) (behindSign (Text.skipBlanks s.toList))))) := by
  have sum (cs : List Char) := sumDigits_zero (radixOf_pos radix) cs
  have same : (if radix = 0 then 10 else max 2 (min radix 36)) = radixOf radix := rfl
  rw [leadingInteger, same]
  generalize Text.skipBlanks s.toList = cs
  split
  · rw [sum]
    exact (saturate_min _).2
  · rw [sum]
    exact (saturate_min _).1
  · rename_i noMinus noPlus
    obtain ⟨behind, sign⟩ := unsigned_of noMinus noPlus
    rw [sum, behind, sign]
    exact (saturate_min _).1

/-! ### Written integers -/

section Written

variable {radix : Nat} {ds : List Char}

theorem skipBlanks_blanks (count : Nat) (cs : List Char) :
    Text.skipBlanks (List.replicate count ' ' ++ cs) = Text.skipBlanks cs := by
  induction count with
  | zero => rfl
  | succ count ih => exact ih

/-- Blanks behind digits are passed over. -/
theorem frontDigits_blanks (all : ∀ c ∈ ds, Numeral.isDigit radix c = true) (count : Nat) :
    frontDigits radix (ds ++ List.replicate count ' ') = ds := by
  induction ds with
  | nil =>
      induction count with
      | zero => rfl
      | succ count ih =>
          rw [List.replicate_succ, List.nil_append, frontDigits_cons_skip rfl (by decide)]
          exact ih
  | cons c ds ih =>
      rw [List.cons_append, frontDigits_cons_digit (all c List.mem_cons_self),
        ih fun d member => all d (List.mem_cons_of_mem c member)]

def signs : List (List Char) := [[], [' '], ['+'], ['-']]

/-- A text of a sign and digits, with blanks around it, is read as the number they denote. -/
theorem leadingInteger_written (least : 2 ≤ radix) (most : radix ≤ 36) {sign : List Char}
    (isSign : sign ∈ signs) (all : ∀ c ∈ ds, Numeral.isDigit radix c = true) (before behind : Nat) :
    leadingInteger
        (String.ofList (List.replicate before ' ' ++ sign ++ ds ++ List.replicate behind ' ')) radix =
      saturate (if sign = ['-'] then -(Numeral.value radix ds : Int) else Numeral.value radix ds) := by
  have same : radixOf radix = radix := by
    rw [radixOf, if_neg (by omega), Nat.min_eq_left most, Nat.max_eq_right least]
  rw [leadingInteger_eq, same, String.toList_ofList, List.append_assoc, List.append_assoc,
    skipBlanks_blanks]
  have found := frontDigits_blanks all behind
  -- without a sign the digits come first, if there are any
  have plain : withSign (Text.skipBlanks (ds ++ List.replicate behind ' '))
      (Numeral.value radix (frontDigits radix
        (behindSign (Text.skipBlanks (ds ++ List.replicate behind ' '))))) =
      Numeral.value radix ds := by
    cases ds with
    | nil =>
        have nothing : Text.skipBlanks ([] ++ List.replicate behind ' ') = [] := by
          have blank := skipBlanks_blanks behind []
          rwa [List.append_nil] at blank
        rw [nothing]
        rfl
    | cons c ds =>
        have inside := Scan.isNameChar_of_isDigit (all c List.mem_cons_self)
        have unblanked : Text.skipBlanks (c :: ds ++ List.replicate behind ' ') =
            c :: ds ++ List.replicate behind ' ' := by
          rw [List.cons_append, Text.skipBlanks, List.dropWhile_cons,
            Text.not_isBlank_of_isNameChar inside]
          rfl
        have other {mark : Char} (outside : Text.isNameChar mark = false) (rest : List Char) :
            c :: ds ++ List.replicate behind ' ' ≠ mark :: rest := by
          rintro same
          injection same with same
          rw [← same, inside] at outside
          cases outside
        obtain ⟨first, unsigned⟩ := unsigned_of (other (by decide)) (other (by decide))
        rw [unblanked, first, unsigned, found]
  -- a blank in front of the digits is skipped like those before it
  simp only [signs, List.mem_cons, List.not_mem_nil, or_false] at isSign
  rcases isSign with rfl | rfl | rfl | rfl
  · exact congrArg saturate plain
  · exact congrArg saturate plain
  · rw [if_neg (by decide)]
    exact congrArg (fun ds => saturate (Numeral.value radix ds : Nat)) found
  · rw [if_pos rfl]
    exact congrArg (fun ds => saturate (-(Numeral.value radix ds : Nat))) found

end Written

/-! ### The longest front -/

structure IsLongest (condition : List Char → Prop) (p cs : List Char) : Prop where
  isFront : p <+: cs
  holds : condition p
  longest : ∀ q, q <+: cs → condition q → q <+: p

theorem isLongest_takeWhile (test : Char → Bool) (cs : List Char) :
    IsLongest (fun p => ∀ c ∈ p, test c = true) (cs.takeWhile test) cs where
  isFront := List.takeWhile_prefix test
  holds := List.all_eq_true.mp List.all_takeWhile
  longest := by
    intro q isFront all
    obtain ⟨rest, rfl⟩ := isFront
    rw [List.takeWhile_append_of_pos all]
    exact List.prefix_append q _

theorem goesOn_iff {radix : Nat} {c : Char} :
    goesOn radix c = true ↔
      (Text.isAlphanumeric c = true → Numeral.isDigit radix c = true) := by
  rw [goesOn]
  cases Text.isAlphanumeric c <;> simp

/-- The integer at the front of a text is the exact one, brought into the range of 64 bits. Its
digits stand behind blanks and a sign, in the longest front in which every letter and numeral is a
digit of the radix; other characters between them do not count. -/
theorem leadingInteger_is_clamped_value (s : String) (radix : Nat) :
    ∃ p, IsLongest
        (fun p => ∀ c ∈ p, Text.isAlphanumeric c = true → Numeral.isDigit (radixOf radix) c = true)
        p (behindSign (Text.skipBlanks s.toList)) ∧
      let digits := p.filter (Numeral.isDigit (radixOf radix))
      let exact : Nat :=
        Nat.ofDigits (radixOf radix) (digits.reverse.map (Numeral.worth (radixOf radix)))
      (leadingInteger s radix).toInt =
        max (-2 ^ 63) (min (withSign (Text.skipBlanks s.toList) exact) (2 ^ 63 - 1)) := by
  refine ⟨(behindSign (Text.skipBlanks s.toList)).takeWhile (goesOn (radixOf radix)), ?_, ?_⟩
  · have found :=
      isLongest_takeWhile (goesOn (radixOf radix)) (behindSign (Text.skipBlanks s.toList))
    simpa only [goesOn_iff] using found
  · intro digits exact
    rw [leadingInteger_eq, toInt_saturate, Numeral.value_eq_ofDigits]
    rfl

example : leadingInteger "\t-1,f2g3" 16 = -498 := by decide +kernel

end TemplateCalc.Strings
