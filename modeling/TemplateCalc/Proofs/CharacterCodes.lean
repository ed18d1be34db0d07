import Mathlib.Data.List.Nodup
import TemplateCalc.Function.Apply

/-!
Conversion between ASCII and EBCDIC and back.

No two ASCII codes have the same EBCDIC code, so the table can be turned around entry by entry, and no
entry is lost. The question marks of both codes correspond to each other. A text that is converted and
converted back is therefore the same again, apart from characters without a counterpart, which have
become question marks.
-/

set_option autoImplicit false

namespace TemplateCalc.Ebcdic

/-! ### The table -/

theorem nodup_table : table.Nodup := by
  decide +kernel

section Codes

variable {a b : UInt8}

theorem ofAscii_of_small (small : a.toNat < 128) : table[a.toNat]? = some (ofAscii a) := by
  have inside : a.toNat < table.length := small
  rw [ofAscii, List.getD_eq_getElem?_getD, List.getElem?_eq_getElem inside, Option.getD_some]

theorem ofAscii_of_large (large : 128 ≤ a.toNat) : ofAscii a = unknown := by
  have outside : table.length ≤ a.toNat := large
  rw [ofAscii, List.getD_eq_getElem?_getD, List.getElem?_eq_none outside, Option.getD_none]

theorem idxOf?_table {i : Nat} (entry : table[i]? = some b) : table.idxOf? b = some i := by
  obtain ⟨inside, same⟩ := List.getElem?_eq_some_iff.mp entry
  refine List.idxOf?_eq_some_iff.mpr ⟨inside, same, ?_⟩
  intro j before again
  have equal := nodup_table.getElem_inj_iff.mp (again.trans same.symm)
  omega

theorem toAscii?_ofAscii (small : a.toNat < 128) : toAscii? (ofAscii a) = some a := by
  rw [toAscii?, idxOf?_table (ofAscii_of_small small), Option.map_some, UInt8.ofNat_toNat]

theorem toAscii?_of_mem (member : b ∈ table) :
    ∃ a : UInt8, a.toNat < 128 ∧ ofAscii a = b ∧ toAscii? b = some a := by
  obtain ⟨i, inside, same⟩ := List.getElem_of_mem member
  have small : i < 128 := inside
  have entry : table[i]? = some b := by
    rw [List.getElem?_eq_getElem inside, same]
  have code : (UInt8.ofNat i).toNat = i := UInt8.toNat_ofNat_of_lt' (Nat.lt_trans small (by decide))
  refine ⟨UInt8.ofNat i, by omega, ?_, ?_⟩
  · rw [ofAscii, code, List.getD_eq_getElem?_getD, entry, Option.getD_some]
  · rw [toAscii?, idxOf?_table entry, Option.map_some]

theorem toAscii?_of_notMem (outside : b ∉ table) : toAscii? b = none := by
  rw [toAscii?, List.idxOf?_eq_none_iff.mpr outside, Option.map_none]

end Codes

/-! ### Filling the other table -/

/-- Enters numbers, from the first one on, at the places that a list names. Where a place is named
again, the later number replaces the earlier one. -/
def enter (first : Nat) : List UInt8 → List UInt8 → List UInt8
  | [], row => row
  | place :: places, row => enter (first + 1) places (row.set place.toNat (UInt8.ofNat first))

def absent : UInt8 := 0xFF

def inverse : List UInt8 :=
  enter 0 table (List.replicate 256 absent)

/-- As long as no place is named again, every number stays where it was entered. -/
theorem getElem?_enter (first : Nat) {places : List UInt8} (distinct : places.Nodup)
    {row : List UInt8} (long : row.length = 256) (b : UInt8) :
    (enter first places row)[b.toNat]? =
      match places.idxOf? b with
      | some i => some (UInt8.ofNat (first + i))
      | none => row[b.toNat]? := by
  induction places generalizing first row with
  | nil => rfl
  | cons place places ih =>
      obtain ⟨fresh, distinct⟩ := List.nodup_cons.mp distinct
      rw [enter, ih (first + 1) distinct (by rw [List.length_set, long]), List.idxOf?_cons]
      by_cases same : place = b
      · subst place
        have inside : b.toNat < row.length := by
          rw [long]
          exact b.toNat_lt
        rw [if_pos (beq_self_eq_true b), List.idxOf?_eq_none_iff.mpr fresh]
        simp only [List.getElem?_set_self inside, Nat.add_zero]
      · have elsewhere : place.toNat ≠ b.toNat := fun equal => same (UInt8.toNat_inj.mp equal)
        rw [if_neg (by rwa [beq_iff_eq])]
        cases places.idxOf? b with
        | none => exact List.getElem?_set_ne elsewhere
        | some i =>
            rw [Option.map_some]
            dsimp only
            rw [Nat.add_assoc, Nat.add_comm 1]

/-- The filled table says what searching the given one finds, and its mark is no ASCII code. -/
theorem toAscii?_eq_inverse (b : UInt8) :
    toAscii? b =
      if inverse.getD b.toNat absent = absent then none else some (inverse.getD b.toNat absent) := by
  have entry := getElem?_enter 0 nodup_table (List.length_replicate (a := absent)) b
  rw [List.getD_eq_getElem?_getD, inverse, entry, toAscii?]
  cases found : table.idxOf? b with
  | none =>
      have empty : (List.replicate 256 absent)[b.toNat]? = some absent :=
        List.getElem?_replicate_of_lt b.toNat_lt
      rw [Option.map_none, empty, Option.getD_some, if_pos rfl]
  | some i =>
      have small : i < 128 := (List.idxOf?_eq_some_iff.mp found).1
      have code : UInt8.ofNat i ≠ absent := by
        intro same
        have value := congrArg UInt8.toNat same
        rw [UInt8.toNat_ofNat_of_lt' (Nat.lt_trans small (by decide))] at value
        exact absurd (value ▸ small) (by decide)
      rw [Option.map_some, Option.getD_some, Nat.zero_add, if_neg code]

/-! ### Characters -/

section Characters

variable {b : UInt8} {c : Char}

theorem toNat_carrier (b : UInt8) : (carrier b).toNat = b.toNat := by
  have valid : b.toNat.isValidChar := .inl (Nat.lt_trans b.toNat_lt (by decide))
  rw [carrier, Char.ofNat, dif_pos valid]
  rfl

theorem code?_carrier (b : UInt8) : code? (carrier b) = some b := by
  rw [code?, toNat_carrier, if_pos b.toNat_lt, UInt8.ofNat_toNat]

theorem carrier_of_code (code : code? c = some b) : carrier b = c ∧ c.toNat = b.toNat := by
  rw [code?] at code
  split at code
  · rename_i small
    injection code with code
    have same : b.toNat = c.toNat := by
      rw [← code]
      exact UInt8.toNat_ofNat_of_lt' small
    exact ⟨by rw [carrier, same, Char.ofNat_toNat], same.symm⟩
  · cases code

theorem code?_of_small (small : c.toNat < 256) : ∃ b, code? c = some b := by
  rw [code?, if_pos small]
  exact ⟨_, rfl⟩

def encoded (c : Char) : Char :=
  carrier ((code? c).elim unknown ofAscii)

def decoded (c : Char) : Char :=
  ((code? c).bind toAscii?).elim '?' carrier

theorem encoded_of_large (large : 127 < c.toNat) : encoded c = carrier unknown := by
  rw [encoded]
  cases code : code? c with
  | none => rfl
  | some b =>
      have same := (carrier_of_code code).2
      rw [Option.elim_some, ofAscii_of_large (by omega)]

theorem decoded_encoded (c : Char) : decoded (encoded c) = if c.toNat ≤ 127 then c else '?' := by
  by_cases ascii : c.toNat ≤ 127
  · obtain ⟨b, code⟩ := code?_of_small (by omega : c.toNat < 256)
    obtain ⟨carried, same⟩ := carrier_of_code code
    rw [if_pos ascii, encoded, code, Option.elim_some, decoded, code?_carrier, Option.bind_some,
      toAscii?_ofAscii (by omega), Option.elim_some, carried]
  · rw [if_neg ascii, encoded_of_large (by omega)]
    decide +kernel

theorem encoded_decoded (c : Char) :
    encoded (decoded c) = if c ∈ table.map carrier then c else carrier unknown := by
  by_cases member : c ∈ table.map carrier
  · obtain ⟨b, inTable, rfl⟩ := List.mem_map.mp member
    obtain ⟨a, _, same, found⟩ := toAscii?_of_mem inTable
    rw [if_pos member, decoded, code?_carrier, Option.bind_some, found, Option.elim_some, encoded,
      code?_carrier, Option.elim_some, same]
  · have nothing : (code? c).bind toAscii? = none := by
      cases code : code? c with
      | none => rfl
      | some b =>
          rw [Option.bind_some]
          apply toAscii?_of_notMem
          intro inTable
          exact member (List.mem_map.mpr ⟨b, inTable, (carrier_of_code code).1⟩)
    rw [if_neg member, decoded, nothing]
    decide +kernel

end Characters

/-! ### Texts -/

theorem decode_encode (s : String) :
    decode (encode s) = s.map fun c => if c.toNat ≤ 127 then c else '?' := by
  have both : decode (encode s) = s.map (decoded ∘ encoded) := String.map_map
  rw [both]
  exact congrArg s.map (funext decoded_encoded)

theorem encode_decode (t : String) :
    encode (decode t) = t.map fun c => if c ∈ table.map carrier then c else carrier unknown := by
  have both : encode (decode t) = t.map (encoded ∘ decoded) := String.map_map
  rw [both]
  exact congrArg t.map (funext encoded_decoded)

theorem decode_encode_of_ascii {s : String} (ascii : ∀ c ∈ s.toList, c.toNat ≤ 127) :
    decode (encode s) = s := by
  rw [decode_encode, String.ext_iff, String.toList_map]
  conv_rhs => rw [← List.map_id s.toList]
  apply List.map_congr_left
  intro c member
  exact if_pos (ascii c member)

theorem encode_decode_encode (s : String) : encode (decode (encode s)) = encode s := by
  have all : encode (decode (encode s)) = s.map (encoded ∘ decoded ∘ encoded) := by
    rw [← String.map_map, ← String.map_map]
    rfl
  rw [all]
  refine congrArg s.map (funext fun c => ?_)
  change encoded (decoded (encoded c)) = encoded c
  rw [decoded_encoded]
  by_cases ascii : c.toNat ≤ 127
  · rw [if_pos ascii]
  · rw [if_neg ascii, encoded_of_large (Nat.not_le.mp ascii)]
    decide +kernel

/-- Converting a text to EBCDIC and back gives the text with question marks for all characters that are
not ASCII. Converting back first gives the text with EBCDIC question marks for all characters that are
not the code of an ASCII character. So no conversion changes the length of a text, ASCII texts come back
unchanged, and so do texts that were converted to EBCDIC before. The ASCII code of an EBCDIC code is the
one that its place in the filled table holds. -/
theorem conversions_are_inverse :
    (∀ s, decode (encode s) = s.map fun c => if c.toNat ≤ 127 then c else '?') ∧
      (∀ t, encode (decode t) =
        t.map fun c => if c ∈ table.map carrier then c else Char.ofNat 0x6F) ∧
      (∀ s, (encode s).length = s.length ∧ (decode s).length = s.length) ∧
      (∀ s, (∀ c ∈ s.toList, c.toNat ≤ 127) → decode (encode s) = s) ∧
      (∀ s, encode (decode (encode s)) = encode s) ∧
      (∀ now s, Function.asc2ebc.result? now [.str s] = some (.ok (.str (encode s))) ∧
        Function.ebc2asc.result? now [.str s] = some (.ok (.str (decode s)))) ∧
      ∀ b, toAscii? b =
        if inverse.getD b.toNat absent = absent then none
        else some (inverse.getD b.toNat absent) := by
  refine ⟨decode_encode, encode_decode, fun s => ⟨String.length_map, String.length_map⟩,
    fun s ascii => decode_encode_of_ascii ascii, encode_decode_encode, fun now s => ⟨rfl, rfl⟩,
    toAscii?_eq_inverse⟩

/-- A text with a letter that is no ASCII, and one of letters and a digit. -/
theorem conversions_of_letters :
    let ascii := "Test 1"
    (∀ c ∈ ascii.toList, c.toNat ≤ 127) ∧ encode ascii ≠ ascii ∧ decode (encode ascii) = ascii ∧
      decode (encode "né") = "n?" := by
  intro ascii
  have small : ascii.toList.all (fun c => decide (c.toNat ≤ 127)) = true := by decide
  have isAscii (c : Char) (member : c ∈ ascii.toList) : c.toNat ≤ 127 :=
    of_decide_eq_true (List.all_eq_true.mp small c member)
  have ⟨back, _, _, unchanged, _⟩ := conversions_are_inverse
  refine ⟨isAscii, by decide +kernel, unchanged ascii isAscii, ?_⟩
  rw [back]
  decide +kernel

end TemplateCalc.Ebcdic
