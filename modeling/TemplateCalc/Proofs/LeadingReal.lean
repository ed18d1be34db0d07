import TemplateCalc.Proofs.RealNumeral
import TemplateCalc.Proofs.Slices

/-!
Reals at the front of texts.

The real at the front of a text is the one that the longest numeral there denotes. The numeral is taken
out of the text by its bytes. All positions at which the text is cut are behind a row of whole
characters, so that it does not matter what follows the numeral.
-/

set_option autoImplicit false

namespace TemplateCalc.Strings

/-! ### Scanning bytes -/

def positionBehindDigits (bytes : List UInt8) (start : Nat) : Nat :=
  if Text.byteHolds Char.isDigit bytes start then positionBehindDigits bytes (start + 1)
  else start
termination_by bytes.length - start
decreasing_by
  have inside := Text.lt_of_byteHolds ‹_›
  omega

def positionBehind (test : Char → Bool) (bytes : List UInt8) (start : Nat) : Nat :=
  if Text.byteHolds test bytes start then start + 1 else start

def positionBehindFraction (bytes : List UInt8) (start : Nat) : Nat :=
  if Text.byteHolds (· == '.') bytes start then positionBehindDigits bytes (start + 1) else start

def positionBehindExponent (bytes : List UInt8) (start : Nat) : Nat :=
  let digits := positionBehind isSign bytes (start + 1)
  if Text.byteHolds isExponentLetter bytes start && Text.byteHolds Char.isDigit bytes digits then
    positionBehindDigits bytes digits
  else start

/-- The part of a text that is read as a real, if there is one. Parts are taken between positions among
the bytes; there is no result if one of these does not lie between characters. -/
def leadingRealText? (s : String) : Option (Option String) :=
  let bytes := Text.bytes s
  let start := positionBehind isSign bytes 0
  let stop := positionBehindFraction bytes (positionBehindDigits bytes start)
  if stop = start then some none
  else
    (Text.slice? s start stop).bind fun places =>
      if places = "." then some none
      else (Text.slice? s 0 (positionBehindExponent bytes stop)).map some

section Positions

variable (front rest : List Char)

theorem isAscii_isSign : Text.IsAscii isSign :=
  Text.isAscii_or (Text.isAscii_beq (by decide)) (Text.isAscii_beq (by decide))

theorem isAscii_isExponentLetter : Text.IsAscii isExponentLetter :=
  Text.isAscii_or (Text.isAscii_beq (by decide)) (Text.isAscii_beq (by decide))

theorem positionBehind_offset {test : Char → Bool} (ascii : Text.IsAscii test) :
    positionBehind test (Text.bytes (String.ofList (front ++ rest))) (Text.offset front) =
      Text.offset (front ++ (rest.take 1).filter test) := by
  rw [positionBehind, Text.byteHolds_offset ascii]
  cases rest with
  | nil => simp
  | cons c rest =>
      cases holds : test c with
      | false => simp [holds]
      | true => simp [holds, Text.offset_append, Text.offset_ascii (ascii c holds)]

theorem filter_isSign : (rest.take 1).filter isSign = (signAt rest).text := by
  fun_cases signAt rest with
  | case1 | case2 => rfl
  | case3 _ noMinus noPlus =>
      cases rest with
      | nil => rfl
      | cons c rest =>
          have noSign : isSign c = false := by
            rw [isSign, Bool.or_eq_false_iff, beq_eq_false_iff_ne, beq_eq_false_iff_ne]
            constructor <;> intro same
            · exact noPlus rest (by rw [same])
            · exact noMinus rest (by rw [same])
          simp [noSign, Sign.text]

theorem positionBehindDigits_offset :
    positionBehindDigits (Text.bytes (String.ofList (front ++ rest))) (Text.offset front) =
      Text.offset (front ++ digitsAt rest) := by
  induction rest generalizing front with
  | nil =>
      rw [positionBehindDigits, Text.byteHolds_offset Text.isAscii_isDigit]
      simp [digitsAt]
  | cons c rest induction =>
      rw [positionBehindDigits, Text.byteHolds_offset Text.isAscii_isDigit]
      cases digit : c.isDigit with
      | false => simp [digit, digitsAt_cons digit]
      | true =>
          have next := induction (front ++ [c])
          rw [Text.offset_append, Text.offset_ascii (Text.isAscii_isDigit c digit)] at next
          simpa [digit, digitsAt] using next

theorem positionBehindFraction_offset :
    positionBehindFraction (Text.bytes (String.ofList (front ++ rest))) (Text.offset front) =
      Text.offset (front ++ fractionText (fractionAt rest)) := by
  rw [positionBehindFraction, Text.byteHolds_offset (Text.isAscii_beq (by decide))]
  fun_cases fractionAt rest with
  | case1 cs =>
      have digits := positionBehindDigits_offset (front ++ ['.']) cs
      rw [Text.offset_append, Text.offset_ascii (by decide)] at digits
      simpa [fractionText] using digits
  | case2 cs noPoint =>
      have other : rest.head?.any (· == '.') = false := by
        cases rest with
        | nil => rfl
        | cons c cs => simpa using fun point => noPoint cs (by rw [point])
      rw [other, if_neg Bool.false_ne_true]
      simp [fractionText]

theorem head?_any_isDigit : rest.head?.any Char.isDigit = !(digitsAt rest).isEmpty := by
  cases rest with
  | nil => rfl
  | cons c cs => cases digit : c.isDigit <;> simp [digitsAt, digit]

theorem positionBehindExponent_offset :
    positionBehindExponent (Text.bytes (String.ofList (front ++ rest))) (Text.offset front) =
      Text.offset (front ++ exponentText (exponentAt rest)) := by
  rw [positionBehindExponent, Text.byteHolds_offset isAscii_isExponentLetter]
  cases rest with
  | nil => simp [exponentAt, exponentText]
  | cons c cs =>
      cases letter : isExponentLetter c with
      | false => simp [letter, exponentAt, exponentText]
      | true =>
          obtain ⟨marked, same⟩ : ∃ marked, front ++ [c] ++ (signAt cs).text = marked := ⟨_, rfl⟩
          have single : front ++ [c] ++ cs = front ++ c :: cs := (List.append_cons front c cs).symm
          have placed : marked ++ behindSign cs = front ++ c :: cs := by
            rw [← same, List.append_assoc (front ++ [c]), sign_split, single]
          have mark := positionBehind_offset (front ++ [c]) cs isAscii_isSign
          rw [single, filter_isSign, same, Text.offset_append front,
            Text.offset_ascii (isAscii_isExponentLetter c letter)] at mark
          have digits := positionBehindDigits_offset marked (behindSign cs)
          have holds := Text.byteHolds_offset Text.isAscii_isDigit marked (behindSign cs)
          rw [placed] at digits holds
          simp only [List.head?_cons, Option.any_some, letter, mark, digits, holds,
            head?_any_isDigit, exponentAt]
          split
          · simp [exponentText, Exponent.text, ← same]
          · simp [exponentText]

end Positions

section Stops

variable (cs : List Char)

theorem positionBehindSign_eq :
    positionBehind isSign (Text.bytes (String.ofList cs)) 0 =
      Text.offset (realAt cs).sign.text := by
  have mark := positionBehind_offset [] cs isAscii_isSign
  rwa [List.nil_append, List.nil_append, filter_isSign, Text.offset_nil] at mark

theorem positionBehindPlaces_eq :
    let bytes := Text.bytes (String.ofList cs)
    positionBehindFraction bytes
        (positionBehindDigits bytes (Text.offset (realAt cs).sign.text)) =
      Text.offset ((realAt cs).sign.text ++ (realAt cs).places) := by
  have digits := positionBehindDigits_offset (signAt cs).text (behindSign cs)
  have fraction := positionBehindFraction_offset ((signAt cs).text ++ digitsAt (behindSign cs))
    (behindDigits (behindSign cs))
  rw [sign_split] at digits
  rw [List.append_assoc, digitsAt_split, sign_split, ← digits, List.append_assoc] at fraction
  exact fraction

theorem positionBehindReal_eq :
    positionBehindExponent (Text.bytes (String.ofList cs))
        (Text.offset ((realAt cs).sign.text ++ (realAt cs).places)) =
      Text.offset (realAt cs).text := by
  have exponent := positionBehindExponent_offset ((realAt cs).sign.text ++ (realAt cs).places)
    (behindFraction (behindDigits (behindSign cs)))
  rw [places_split, List.append_assoc] at exponent
  exact exponent

theorem leadingRealText?_eq :
    leadingRealText? (String.ofList cs) =
      some (if (realAt cs).digits = [] then none else some (String.ofList (realAt cs).text)) := by
  have places := Text.slice?_ofList (realAt cs).sign.text (realAt cs).places
    (behindFraction (behindDigits (behindSign cs)))
  rw [places_split] at places
  obtain ⟨rest, split⟩ := realAt_split cs
  have text := Text.slice?_ofList [] (realAt cs).text rest
  rw [List.nil_append, split, Text.offset_nil] at text
  have noDigits := digits_eq_nil_iff (d := realAt cs) fun c member => isDigit_of_mem_digitsAt member
  have start : Text.offset ((realAt cs).sign.text ++ (realAt cs).places) =
      Text.offset (realAt cs).sign.text ↔ (realAt cs).places = [] := by
    rw [Text.offset_append, ← Text.offset_eq_zero_iff]
    omega
  have point : String.ofList (realAt cs).places = "." ↔ (realAt cs).places = ['.'] :=
    String.ofList_inj
  rw [leadingRealText?]
  simp only [positionBehindSign_eq, positionBehindPlaces_eq, positionBehindReal_eq, places, text,
    start, noDigits, Option.bind_some, Option.map_some, point]
  by_cases nothing : (realAt cs).places = []
  · simp [nothing]
  · by_cases single : (realAt cs).places = ['.'] <;> simp [nothing, single]

end Stops

/-- The real at the front of a text is the one that the longest real numeral there denotes, behind
any blanks, and zero if there is none. When the numeral is taken out of the text by its bytes, all
positions lie between characters, whatever follows. -/
theorem leadingReal_denoted_by_longest_numeral (s : String) :
    (∃ p, IsLongest IsReal p (Text.skipBlanks s.toList) ∧
        leadingRealText? (Text.trimStart s) = some (some (String.ofList p)) ∧
        ∀ x, Denotes p x ↔ x = leadingReal s) ∨
      (¬∃ p, p <+: Text.skipBlanks s.toList ∧ IsReal p) ∧
        leadingRealText? (Text.trimStart s) = some none ∧ leadingReal s = 0.0 := by
  rw [Text.trimStart, leadingRealText?_eq, leadingReal, leadingSigned_eq]
  generalize Text.skipBlanks s.toList = cs
  by_cases found : (realAt cs).digits = []
  · right
    rw [if_pos found, if_pos found]
    refine ⟨?_, rfl, rfl⟩
    intro ⟨p, front, real⟩
    exact digits_realAt front real found
  · left
    rw [if_neg found, if_neg found]
    exact ⟨(realAt cs).text, isLongest_realAt found, rfl, denotes_iff (realAt_isWritten found)⟩

end TemplateCalc.Strings
