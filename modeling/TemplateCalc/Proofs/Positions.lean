import Mathlib.Algebra.Group.Nat.Defs
import Mathlib.Data.Nat.Find
import TemplateCalc.Function.Apply

/-!
The functions on texts count characters in one way.

Parts of texts are cut where others of these functions find something: the first `n` characters and
those from position `n` on are the whole text, and a text is found at the first position from which on
it can be taken. Integers that are negative count as no characters. All texts here have less than
`2 ^ 63` characters, so that every position is an integer.
-/

set_option autoImplicit false

namespace TemplateCalc.Strings

/-! ### Positions as integers -/

section Integers

variable {k : Nat} {r : Int64}

theorem toInt_position (fits : k < 2 ^ 63) : (Int64.ofNat k).toInt = k :=
  Int64.toInt_ofNat_of_lt fits

@[simp] theorem count_ofNat (fits : k < 2 ^ 63) : count (Int64.ofNat k) = k := by
  rw [count, toInt_position fits, Int.toNat_natCast]

theorem ofNat_nonneg (fits : k < 2 ^ 63) : 0 ≤ Int64.ofNat k := by
  rw [Int64.le_iff_toInt_le, toInt_position fits]
  exact Int.natCast_nonneg k

theorem toInt_of_nonneg (nonneg : 0 ≤ r) : (count r : Int) = r.toInt :=
  Int.toNat_of_nonneg (Int64.le_iff_toInt_le.mp nonneg)

theorem count_lt (r : Int64) : count r < 2 ^ 63 := by
  have bound := r.toInt_lt
  unfold count
  omega

theorem ofNat_count (nonneg : 0 ≤ r) : Int64.ofNat (count r) = r := by
  rw [← Int64.toInt_inj, toInt_position (count_lt r), toInt_of_nonneg nonneg]

theorem count_lt_count (nonneg : 0 ≤ r) {q : Int64} : count r < count q ↔ r < q := by
  have sign := Int64.le_iff_toInt_le.mp nonneg
  rw [Int64.lt_iff_toInt_lt]
  change 0 ≤ r.toInt at sign
  unfold count
  omega

theorem toInt_max_zero (n : Int64) : (max 0 n).toInt = count n := by
  have isMax : max 0 n = if 0 ≤ n then n else 0 := rfl
  rw [isMax]
  split
  · rename_i nonneg
    exact (toInt_of_nonneg nonneg).symm
  · rename_i negative
    rw [Int64.le_iff_toInt_le] at negative
    change ¬0 ≤ n.toInt at negative
    change 0 = (n.toInt.toNat : Int)
    omega

theorem count_max_sub (fits : k < 2 ^ 63) (n : Int64) :
    count (max 0 (Int64.ofNat k - max 0 n)) = k - count n := by
  have bound := count_lt n
  have difference : (Int64.ofNat k - max 0 n).toInt = (k : Int) - count n := by
    rw [Int64.toInt_sub, toInt_position fits, toInt_max_zero]
    apply Int.bmod_eq_of_le <;> omega
  rw [count, toInt_max_zero, Int.toNat_natCast, count, difference]
  omega

end Integers

/-! ### First positions -/

def IsFirst (holds : Nat → Prop) (found : Option Nat) : Prop :=
  ∀ k, found = some k ↔ holds k ∧ ∀ j < k, ¬holds j

section First

variable {holds : Nat → Prop} {found : Option Nat}

theorem IsFirst.eq_none_iff (first : IsFirst holds found) : found = none ↔ ∀ k, ¬holds k := by
  classical
  constructor
  · rintro rfl k here
    have exists_first : ∃ k, holds k := ⟨k, here⟩
    have impossible := (first (Nat.find exists_first)).mpr
      ⟨Nat.find_spec exists_first, fun _ before => Nat.find_min exists_first before⟩
    cases impossible
  · intro nowhere
    cases isFound : found with
    | none => rfl
    | some k => exact absurd ((first k).mp isFound).1 (nowhere k)

variable (fits : ∀ k, found = some k → k < 2 ^ 63)

include fits in
theorem position_eq_iff {r : Int64} (nonneg : 0 ≤ r) : position found = r ↔ found = some (count r) := by
  constructor
  · intro isPosition
    cases isFound : found with
    | none =>
        rw [isFound] at isPosition
        rw [← isPosition] at nonneg
        exact absurd nonneg (by decide)
    | some k =>
        rw [isFound] at isPosition
        change Int64.ofNat k = r at isPosition
        rw [← isPosition, count_ofNat (fits k isFound)]
  · rintro rfl
    exact ofNat_count nonneg

include fits in
theorem position_eq_neg_one_iff : position found = -1 ↔ found = none := by
  cases isFound : found with
  | none => exact ⟨fun _ => rfl, fun _ => rfl⟩
  | some k =>
      have nonneg := ofNat_nonneg (fits k isFound)
      constructor
      · intro isPosition
        change Int64.ofNat k = -1 at isPosition
        rw [isPosition] at nonneg
        exact absurd nonneg (by decide)
      · intro impossible
        cases impossible

include fits in
theorem IsFirst.position_iff (first : IsFirst holds found) {r : Int64} (nonneg : 0 ≤ r) :
    position found = r ↔ holds (count r) ∧ ∀ q, 0 ≤ q → q < r → ¬holds (count q) := by
  rw [position_eq_iff fits nonneg, first]
  apply and_congr_right
  intro _
  constructor
  · intro none_before q nonneg' before
    exact none_before _ ((count_lt_count nonneg').mpr before)
  · intro none_before j before
    have small : j < 2 ^ 63 := Nat.lt_trans before (count_lt r)
    have nonneg' := ofNat_nonneg small
    have isBefore : Int64.ofNat j < r := by
      rw [← count_lt_count nonneg', count_ofNat small]
      exact before
    have free := none_before _ nonneg' isBefore
    rwa [count_ofNat small] at free

end First

/-! ### Searches -/

/-- A row of characters is found at the first position from which on the text starts with it. -/
theorem isFirst_indexOf? (part cs : List Char) :
    IsFirst (fun k => part <+: cs.drop k) (indexOf? part cs) := by
  intro k
  induction cs generalizing k with
  | nil =>
      cases part with
      | nil =>
          constructor
          · intro isFound
            cases isFound
            exact ⟨List.prefix_rfl, fun _ impossible => absurd impossible (Nat.not_lt_zero _)⟩
          · rintro ⟨_, none_before⟩
            cases k with
            | zero => rfl
            | succ k => exact absurd List.nil_prefix (none_before 0 (Nat.succ_pos k))
      | cons d part => simp [indexOf?]
  | cons c cs ih =>
      -- found here, or else one place further on than in the rest
      by_cases here : part <+: c :: cs
      · rw [indexOf?, if_pos (List.isPrefixOf_iff_prefix.mpr here)]
        constructor
        · intro isFound
          cases isFound
          exact ⟨here, fun _ impossible => absurd impossible (Nat.not_lt_zero _)⟩
        · rintro ⟨_, none_before⟩
          cases k with
          | zero => rfl
          | succ k => exact absurd here (none_before 0 (Nat.succ_pos k))
      · rw [indexOf?, if_neg (mt List.isPrefixOf_iff_prefix.mp here)]
        cases k with
        | zero => simp [here]
        | succ k =>
            rw [Option.map_eq_some_iff]
            simp only [Nat.add_right_cancel_iff, exists_eq_right, ih k, List.drop_succ_cons]
            apply and_congr_right
            intro _
            constructor
            · intro none_before j before
              cases j with
              | zero => exact here
              | succ j => exact none_before j (Nat.lt_of_succ_lt_succ before)
            · intro none_before j before
              exact none_before (j + 1) (Nat.succ_lt_succ before)

theorem infix_iff_exists_drop {part cs : List Char} : part <:+: cs ↔ ∃ k, part <+: cs.drop k := by
  rw [List.infix_iff_prefix_suffix]
  constructor
  · rintro ⟨rest, isPrefix, isSuffix⟩
    rw [List.suffix_iff_eq_drop] at isSuffix
    exact ⟨_, isSuffix ▸ isPrefix⟩
  · rintro ⟨k, isPrefix⟩
    exact ⟨_, isPrefix, List.drop_suffix k cs⟩

theorem code_eq_iff {c : Char} {code : Int64} :
    Int64.ofNat c.toNat = code ↔ 0 ≤ code ∧ c.toNat = count code := by
  have fits : c.toNat < 2 ^ 63 := Nat.lt_trans c.val.toNat_lt (by decide)
  constructor
  · rintro rfl
    exact ⟨ofNat_nonneg fits, (count_ofNat fits).symm⟩
  · rintro ⟨nonneg, same⟩
    rw [same, ofNat_count nonneg]

/-- A code other than 0 is found at the first character that has it. -/
theorem isFirst_indexOfCode? (s : String) {code : Int64} (noEnd : code ≠ 0) :
    IsFirst (fun k => ∃ c, s.toList[k]? = some c ∧ Int64.ofNat c.toNat = code)
      (indexOfCode? s code) := by
  intro k
  simp only [code_eq_iff]
  rw [indexOfCode?, if_neg noEnd]
  by_cases negative : code < 0
  · have noCode : ¬0 ≤ code := Int64.not_le.mpr negative
    simp [negative, noCode]
  · have nonneg : 0 ≤ code := Int64.not_lt.mp negative
    rw [if_neg negative, List.findIdx?_eq_some_iff_getElem]
    simp only [nonneg, true_and, beq_iff_eq, List.getElem?_eq_some_iff]
    constructor
    · rintro ⟨inside, here, none_before⟩
      refine ⟨⟨_, ⟨inside, rfl⟩, here⟩, ?_⟩
      rintro j before ⟨c, ⟨_, rfl⟩, isCode⟩
      exact none_before j before isCode
    · rintro ⟨⟨c, ⟨inside, rfl⟩, here⟩, none_before⟩
      refine ⟨inside, here, fun j before isCode => none_before j before ?_⟩
      exact ⟨_, ⟨Nat.lt_trans before inside, rfl⟩, isCode⟩

/-! ### Characters by their index -/

theorem charAt_eq_ok_iff {s : String} {n : Int64} {v : Value} :
    (Value.str s).charAt n = .ok v ↔
      0 ≤ n ∧ ∃ c, s.toList[count n]? = some c ∧ v = .int (Int64.ofNat c.toNat) := by
  unfold Value.charAt
  simp only
  split
  · rename_i negative
    have noIndex : ¬0 ≤ n := Int64.not_le.mpr negative
    simp [noIndex]
  · rename_i nonneg
    rw [← count]
    cases s.toList[count n]? with
    | none => simp
    | some c => simp [Int64.not_lt.mp nonneg, eq_comm]

theorem charAt_iff {s : String} (fits : s.toList.length < 2 ^ 63) {n : Int64} :
    (∃ v, (Value.str s).charAt n = .ok v) ↔ 0 ≤ n ∧ n < Int64.ofNat s.toList.length := by
  simp only [charAt_eq_ok_iff]
  constructor
  · rintro ⟨v, nonneg, c, isChar, _⟩
    obtain ⟨inside, _⟩ := List.getElem?_eq_some_iff.mp isChar
    refine ⟨nonneg, ?_⟩
    rwa [← count_lt_count nonneg, count_ofNat fits]
  · rintro ⟨nonneg, inside⟩
    rw [← count_lt_count nonneg, count_ofNat fits] at inside
    exact ⟨_, nonneg, _, List.getElem?_eq_getElem inside, rfl⟩

/-! ### Parts -/

theorem left_append_mid (s : String) (k : Nat) : left s k ++ mid s k none = s := by
  rw [left, mid, ← String.ofList_append, Option.elim_none, List.take_append_drop,
    String.ofList_toList]

theorem mid_some (s : String) (start k : Nat) : mid s start (some k) = left (mid s start none) k := by
  simp only [left, mid, Option.elim_some, Option.elim_none, String.toList_ofList]

theorem right_eq_mid (s : String) (k : Nat) : right s k = mid s (s.toList.length - k) none := rfl

/-- A text can be taken from the positions at which it occurs. -/
theorem mid_eq_iff {s t : String} {start : Nat} :
    mid s start (some t.toList.length) = t ↔ t.toList <+: s.toList.drop start := by
  rw [mid, Option.elim_some, List.prefix_iff_eq_take]
  constructor
  · intro taken
    have chars := congrArg String.toList taken
    rw [String.toList_ofList] at chars
    exact chars.symm
  · intro isTaken
    rw [← isTaken, String.ofList_toList]

/-! ### Calls -/

section Calls

variable {s t : String} (fits : s.length < 2 ^ 63)

include fits in
theorem indexOf?_fits (part : List Char) {k : Nat}
    (found : indexOf? part s.toList = some k) : k < 2 ^ 63 := by
  obtain ⟨isPrefix, none_before⟩ := (isFirst_indexOf? part s.toList k).mp found
  rw [← String.length_toList] at fits
  by_contra large
  -- Behind its end a text has only the part without characters, which occurs at the front as well.
  rw [List.drop_eq_nil_of_le (by omega), List.prefix_nil] at isPrefix
  exact none_before 0 (by omega) (isPrefix ▸ List.nil_prefix)

include fits in
theorem indexOfCode?_fits {code : Int64} (noEnd : code ≠ 0) {k : Nat}
    (found : indexOfCode? s code = some k) : k < 2 ^ 63 := by
  obtain ⟨⟨c, isChar, _⟩, _⟩ := (isFirst_indexOfCode? s noEnd k).mp found
  obtain ⟨inside, _⟩ := List.getElem?_eq_some_iff.mp isChar
  rw [String.length_toList] at inside
  omega

variable (now : Float)

theorem result?_strlen (s : String) :
    Function.result? now .strlen [.str s] = some (.ok (.int (Int64.ofNat s.toList.length))) := rfl

theorem result?_mid (s : String) (n : Int64) :
    Function.result? now .mid [.str s, .int n] = some (.ok (.str (mid s (count n) none))) := rfl

theorem result?_mid_part (s : String) (n m : Int64) :
    Function.result? now .mid [.str s, .int n, .int m] =
      some (.ok (.str (mid s (count n) (some (count m))))) := rfl

/-- A text is read at a position if a part of its length from there on is the text. -/
theorem readAt_iff (fits' : t.length < 2 ^ 63) (r : Int64) :
    (∃ length, Function.result? now .strlen [.str t] = some (.ok (.int length)) ∧
      Function.result? now .mid [.str s, .int r, .int length] = some (.ok (.str t))) ↔
      t.toList <+: s.toList.drop (count r) := by
  have isLength : count (Int64.ofNat t.toList.length) = t.toList.length := by
    rw [← String.length_toList] at fits'
    exact count_ofNat fits'
  have taken := result?_mid_part now s r (Int64.ofNat t.toList.length)
  rw [isLength] at taken
  rw [result?_strlen, ← mid_eq_iff]
  constructor
  · rintro ⟨length, measured, isTaken⟩
    cases measured
    rw [taken] at isTaken
    exact Value.str.inj (Except.ok.inj (Option.some.inj isTaken))
  · intro isTaken
    exact ⟨_, rfl, by rw [taken, isTaken]⟩

theorem strstr_eq_iff (r : Int64) :
    Function.result? now .strstr [.str s, .str t] = some (.ok (.int r)) ↔
      position (indexOf? t.toList s.toList) = r := by
  change some (Except.ok (Value.int (position (indexOf? t.toList s.toList)))) = _ ↔ _
  simp only [Option.some.injEq, Except.ok.injEq, Value.int.injEq]

theorem strchr_eq_iff (code r : Int64) :
    Function.result? now .strchr [.str s, .int code] = some (.ok (.int r)) ↔
      position (indexOfCode? s code) = r := by
  change some (Except.ok (Value.int (position (indexOfCode? s code)))) = _ ↔ _
  simp only [Option.some.injEq, Except.ok.injEq, Value.int.injEq]

include fits in
/-- The position of a code, in terms of the characters at single indices. -/
theorem strchr_first {code : Int64} (noEnd : code ≠ 0) :
    (∀ r, 0 ≤ r → (position (indexOfCode? s code) = r ↔
      (Value.str s).charAt r = .ok (.int code) ∧
        ∀ q, 0 ≤ q → q < r → (Value.str s).charAt q ≠ .ok (.int code))) ∧
    (position (indexOfCode? s code) = -1 ↔ ∀ r, (Value.str s).charAt r ≠ .ok (.int code)) := by
  have first := isFirst_indexOfCode? s noEnd
  have small (k : Nat) (found : indexOfCode? s code = some k) : k < 2 ^ 63 :=
    indexOfCode?_fits fits noEnd found
  have readable {r : Int64} (nonneg : 0 ≤ r) : (Value.str s).charAt r = .ok (.int code) ↔
      ∃ c, s.toList[count r]? = some c ∧ Int64.ofNat c.toNat = code := by
    rw [charAt_eq_ok_iff]
    simp only [nonneg, true_and, Value.int.injEq, eq_comm]
  constructor
  · intro r nonneg
    rw [first.position_iff small nonneg, readable nonneg]
    apply and_congr_right
    intro _
    exact forall₃_congr fun q nonneg' _ => not_congr (readable nonneg').symm
  · rw [position_eq_neg_one_iff small, first.eq_none_iff]
    constructor
    · intro nowhere r isRead
      exact nowhere _ ((readable (charAt_eq_ok_iff.mp isRead).1).mp isRead)
    · rintro nowhere k ⟨c, isChar, isCode⟩
      have fits' : k < 2 ^ 63 := by
        obtain ⟨inside, _⟩ := List.getElem?_eq_some_iff.mp isChar
        rw [String.length_toList] at inside
        omega
      apply nowhere (Int64.ofNat k)
      rw [readable (ofNat_nonneg fits'), count_ofNat fits']
      exact ⟨c, isChar, isCode⟩

end Calls

/-- The functions on texts share one way of counting characters. The parts to the left and right of a
position are the whole, a part in the middle is cut from the rest, the last characters are those from
their distance to the end on, and lengths add up. A text and a code are found at the first position
where they can be read. A character can be read exactly from position 0 up to the length. -/
theorem positions_agree (now : Float) (s t : String) (fits : s.length < 2 ^ 63)
    (fits' : t.length < 2 ^ 63) (n m : Int64) :
    let call (f : Function) (args : List Value) := f.result? now args
    let ok (v : Value) : Option (Except EvalError Value) := some (.ok v)
    let readAt (r : Int64) : Prop := ∃ length, call .strlen [.str t] = ok (.int length) ∧
      call .mid [.str s, .int r, .int length] = ok (.str t)
    (∃ front rest, call .left [.str s, .int n] = ok (.str front) ∧
      call .mid [.str s, .int n] = ok (.str rest) ∧
      (Value.str front).add (.str rest) = .ok (.str s)) ∧
    (∃ rest part, call .mid [.str s, .int n] = ok (.str rest) ∧
      call .left [.str rest, .int m] = ok (.str part) ∧
      call .mid [.str s, .int n, .int m] = ok (.str part)) ∧
    (∃ length last, call .strlen [.str s] = ok (.int length) ∧
      call .right [.str s, .int n] = ok (.str last) ∧
      call .mid [.str s, .int (max 0 (length - max 0 n))] = ok (.str last)) ∧
    (∃ length length' both, call .strlen [.str s] = ok (.int length) ∧
      call .strlen [.str t] = ok (.int length') ∧ (Value.str s).add (.str t) = .ok both ∧
      call .strlen [both] = ok (.int (length + length'))) ∧
    (∀ r, 0 ≤ r → (call .strstr [.str s, .str t] = ok (.int r) ↔
      readAt r ∧ ∀ q, 0 ≤ q → q < r → ¬readAt q)) ∧
    (call .strstr [.str s, .str t] = ok (.int (-1)) ↔ ¬t.toList <:+: s.toList) ∧
    (∀ code, code ≠ 0 →
      (∀ r, 0 ≤ r → (call .strchr [.str s, .int code] = ok (.int r) ↔
        (Value.str s).charAt r = .ok (.int code) ∧
          ∀ q, 0 ≤ q → q < r → (Value.str s).charAt q ≠ .ok (.int code))) ∧
      (call .strchr [.str s, .int code] = ok (.int (-1)) ↔
        ∀ r, (Value.str s).charAt r ≠ .ok (.int code))) ∧
    ((∃ v, (Value.str s).charAt n = .ok v) ↔
      ∃ length, call .strlen [.str s] = ok (.int length) ∧ 0 ≤ n ∧ n < length) := by
  intro call ok readAt
  have length : s.toList.length < 2 ^ 63 := by rwa [String.length_toList]
  have first := isFirst_indexOf? t.toList s.toList
  have small (k : Nat) (found : indexOf? t.toList s.toList = some k) : k < 2 ^ 63 :=
    indexOf?_fits fits t.toList found
  -- each conjunct says of results what a lemma says of the texts themselves
  refine ⟨⟨_, _, rfl, result?_mid now s n, ?_⟩, ⟨_, _, result?_mid now s n, rfl, ?_⟩,
    ⟨_, _, result?_strlen now s, rfl, ?_⟩,
    ⟨_, _, _, result?_strlen now s, result?_strlen now t, rfl, ?_⟩, ?_, ?_, ?_, ?_⟩
  · exact congrArg (Except.ok ∘ Value.str) (left_append_mid s (count n))
  · exact congrArg (ok ∘ Value.str) (mid_some s (count n) (count m))
  · simp only [call, result?_mid, count_max_sub length]
    exact congrArg (ok ∘ Value.str) (right_eq_mid s (count n)).symm
  · simp only [call, result?_strlen, String.toList_append, List.length_append, Int64.ofNat_add]
    rfl
  · intro r nonneg
    have reads (r : Int64) : readAt r ↔ t.toList <+: s.toList.drop (count r) :=
      readAt_iff now fits' r
    simp only [call, ok, strstr_eq_iff, first.position_iff small nonneg, reads]
  · rw [strstr_eq_iff, position_eq_neg_one_iff small, first.eq_none_iff, infix_iff_exists_drop,
      not_exists]
  · intro code noEnd
    simp only [call, ok, strchr_eq_iff]
    exact strchr_first fits noEnd
  · simp only [call, ok, result?_strlen, Option.some.injEq, Except.ok.injEq, Value.int.injEq,
      exists_eq_left', charAt_iff length]

/-- The second of four letters that take two bytes each. -/
theorem positions_of_wide_letter :
    let call (f : Function) (args : List Value) := f.result? 0 args
    let ok (v : Value) : Option (Except EvalError Value) := some (.ok v)
    let s := "αβγβ"
    s.length < 2 ^ 63 ∧ "β".length < 2 ^ 63 ∧
      call .strstr [.str s, .str "β"] = ok (.int 1) ∧
      (∃ length, call .strlen [.str "β"] = ok (.int length) ∧
        call .mid [.str s, .int 1, .int length] = ok (.str "β")) ∧
      call .strchr [.str s, .int 946] = ok (.int 1) ∧
      (Value.str s).charAt 1 = .ok (.int 946) ∧ (Value.str s).charAt 0 ≠ .ok (.int 946) ∧
      call .strstr [.str s, .str "βα"] = ok (.int (-1)) ∧ ¬"βα".toList <:+: s.toList := by
  intro call ok s
  have fits : s.length < 2 ^ 63 := by decide
  have fits' : "β".length < 2 ^ 63 := by decide
  have agree := positions_agree 0 s "β" fits fits' 1 1
  obtain ⟨_, _, _, _, found, _, codes, _⟩ := agree
  have isFound : call .strstr [.str s, .str "β"] = ok (.int 1) :=
    (strstr_eq_iff 0 1).mpr (by decide)
  have isCode : call .strchr [.str s, .int 946] = ok (.int 1) :=
    (strchr_eq_iff 0 946 1).mpr (by decide)
  obtain ⟨isRead, _⟩ := (found 1 (by decide)).mp isFound
  obtain ⟨here, none_before⟩ := ((codes 946 (by decide)).1 1 (by decide)).mp isCode
  have absent : call .strstr [.str s, .str "βα"] = ok (.int (-1)) :=
    (strstr_eq_iff 0 (-1)).mpr (by decide)
  obtain ⟨_, _, _, _, _, nowhere, _⟩ := positions_agree 0 s "βα" fits (by decide) 1 1
  exact ⟨fits, fits', isFound, isRead, isCode, here, none_before 0 (by decide) (by decide), absent,
    nowhere.mp absent⟩

end TemplateCalc.Strings
