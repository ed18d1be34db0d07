import TemplateCalc.Text.Blank

/-!
Parts of texts between positions among their bytes.

A part can be taken only if both positions are boundaries of characters. The position behind a row of
characters is one, whatever follows; and a test that only ASCII characters pass can be made on the
byte there, since a character beyond ASCII starts with a byte beyond ASCII.
-/

set_option autoImplicit false

namespace TemplateCalc.Text

def bytes (s : String) : List UInt8 :=
  s.toByteArray.data.toList

/-- The part of a text between two positions among its bytes, if both are boundaries of characters. -/
def slice? (s : String) (start stop : Nat) : Option String :=
  if start ≤ stop ∧ String.Pos.Raw.IsValid s ⟨start⟩ ∧ String.Pos.Raw.IsValid s ⟨stop⟩ then
    String.fromUTF8? (s.toByteArray.extract start stop)
  else none

def byteHolds (test : Char → Bool) (bytes : List UInt8) (position : Nat) : Bool :=
  bytes[position]?.any fun b => test (Char.ofUInt8 b)

def offset (cs : List Char) : Nat :=
  (bytes (String.ofList cs)).length

def IsAscii (test : Char → Bool) : Prop :=
  ∀ c, test c = true → c.toNat < 128

theorem isAscii_beq {a : Char} (small : a.toNat < 128) : IsAscii (· == a) := by
  intro c same
  rwa [eq_of_beq same]

theorem isAscii_or {first second : Char → Bool} (ascii : IsAscii first) (ascii' : IsAscii second) :
    IsAscii fun c => first c || second c := by
  intro c either
  cases Bool.or_eq_true_iff.mp either with
  | inl holds => exact ascii c holds
  | inr holds => exact ascii' c holds

theorem isAscii_isDigit : IsAscii Char.isDigit := by
  intro c digit
  rw [Char.isDigit, Bool.and_eq_true, decide_eq_true_iff, decide_eq_true_iff,
    UInt32.le_iff_toNat_le] at digit
  exact Nat.lt_of_le_of_lt digit.2 (by decide)

@[simp]
theorem bytes_append (s t : String) : bytes (s ++ t) = bytes s ++ bytes t := by
  simp [bytes]

@[simp]
theorem length_bytes (s : String) : (bytes s).length = s.utf8ByteSize := by
  simp [bytes]

theorem slice?_append (front part rest : String) :
    slice? (front ++ part ++ rest) (bytes front).length (bytes (front ++ part)).length =
      some part := by
  have valid (first second : String) :
      String.Pos.Raw.IsValid (first ++ second) ⟨(bytes first).length⟩ :=
    String.Pos.Raw.isValid_iff_exists_append.mpr ⟨first, second, rfl, by simp [String.rawEndPos]⟩
  have start := valid front (part ++ rest)
  rw [← String.append_assoc] at start
  have cut : (front ++ part ++ rest).toByteArray.extract (bytes front).length
      (bytes (front ++ part)).length = part.toByteArray := by
    have placed : (front ++ part ++ rest).toByteArray =
        front.toByteArray ++ (part.toByteArray ++ rest.toByteArray) := by
      rw [String.append_assoc, String.toByteArray_append, String.toByteArray_append]
    have first : (bytes front).length = front.toByteArray.size + 0 := by simp
    have last : (bytes (front ++ part)).length =
        front.toByteArray.size + part.toByteArray.size := by simp
    rw [placed, first, last, ByteArray.extract_append_size_add]
    exact ByteArray.extract_append_eq_left rfl
  rw [slice?, if_pos ⟨by simp, start, valid (front ++ part) rest⟩, cut, String.fromUTF8?,
    dif_pos part.isValidUTF8]
  rfl

theorem slice?_ofList (front part rest : List Char) :
    slice? (String.ofList (front ++ part ++ rest)) (offset front) (offset (front ++ part)) =
      some (String.ofList part) := by
  have placed := slice?_append (String.ofList front) (String.ofList part) (String.ofList rest)
  rwa [← String.ofList_append, ← String.ofList_append] at placed

/-- The first byte of a character is its code if it is an ASCII character, and beyond ASCII if it is
not. -/
theorem head_utf8EncodeChar (c : Char) :
    ∃ (b : UInt8) (rest : List UInt8), String.utf8EncodeChar c = b :: rest ∧
      if c.toNat < 128 then b.toNat = c.toNat else 128 ≤ b.toNat := by
  change ∃ (b : UInt8) (rest : List UInt8), _ ∧ if c.val.toNat < 128 then b.toNat = c.val.toNat else _
  fun_cases String.utf8EncodeChar c with
  | case1 v small =>
      refine ⟨_, _, rfl, ?_⟩
      have same : v = c.val.toNat := rfl
      rw [← same, UInt8.toNat_ofNat', if_pos (by omega)]
      omega
  | case2 v small | case3 v small | case4 v small =>
      refine ⟨_, _, rfl, ?_⟩
      have same : v = c.val.toNat := rfl
      rw [← same, UInt8.toNat_ofNat', if_neg (by omega)]
      omega

theorem bytes_ofList (cs : List Char) :
    bytes (String.ofList cs) = cs.flatMap String.utf8EncodeChar := by
  simp [bytes, List.utf8Encode]

theorem offset_nil : offset [] = 0 := rfl

theorem offset_append (front part : List Char) :
    offset (front ++ part) = offset front + offset part := by
  simp [offset]

theorem offset_ascii {c : Char} (ascii : c.toNat < 128) : offset [c] = 1 := by
  have single : c.utf8Size = 1 :=
    Char.utf8Size_eq_one_iff.mpr (UInt32.le_iff_toNat_le.mpr (Nat.le_of_lt_succ ascii))
  simp [offset, single]

theorem offset_eq_zero_iff (cs : List Char) : offset cs = 0 ↔ cs = [] := by
  rw [offset, length_bytes, String.utf8ByteSize_eq_zero_iff, String.ofList_eq_empty_iff]

theorem toNat_ofUInt8 (b : UInt8) : (Char.ofUInt8 b).toNat = b.toNat := rfl

/-- The byte behind a row of characters passes a test if and only if the next character does. -/
theorem byteHolds_offset {test : Char → Bool} (ascii : IsAscii test) (front rest : List Char) :
    byteHolds test (bytes (String.ofList (front ++ rest))) (offset front) =
      rest.head?.any test := by
  rw [byteHolds, String.ofList_append, bytes_append, offset,
    List.getElem?_append_right (Nat.le_refl _), Nat.sub_self, bytes_ofList]
  cases rest with
  | nil => rfl
  | cons c rest =>
      obtain ⟨b, others, encoded, first⟩ := head_utf8EncodeChar c
      rw [List.flatMap_cons, encoded, List.cons_append, List.getElem?_cons_zero, Option.any_some,
        List.head?_cons, Option.any_some]
      split at first
      · have same : Char.ofUInt8 b = c := Char.toNat_inj.mp ((toNat_ofUInt8 b).trans first)
        rw [same]
      · rename_i beyond
        have fails {d : Char} (large : ¬d.toNat < 128) : test d = false :=
          Bool.eq_false_iff.mpr fun passes => large (ascii d passes)
        rw [fails beyond, fails (by rw [toNat_ofUInt8]; omega)]

theorem lt_of_byteHolds {test : Char → Bool} {bytes : List UInt8} {position : Nat}
    (holds : byteHolds test bytes position = true) : position < bytes.length := by
  refine Nat.lt_of_not_le fun beyond => ?_
  rw [byteHolds, List.getElem?_eq_none beyond] at holds
  cases holds

end TemplateCalc.Text
