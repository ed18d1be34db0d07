import TemplateCalc.Proofs.Cursor.Agreement

/-!
Numerals by positions.

All that the reader does for a numeral depends on the start and on what is left of the text, with a
few characters of lookahead. It ends behind the start, so the text of a malformed numeral can be cut
out of the whole text.
-/

set_option autoImplicit false

namespace TemplateCalc.Cursor

variable {source : List Char} {position start : Nat} {cs first : List Char}

theorem Stands.digits (stands : Stands source position cs) (radix : Nat)
    (separator : Option Char) (started : Bool) :
    SamePart source (digits source radix separator started position)
      (Scan.digits radix separator started cs) := by
  have swap (started : Bool) (c : Char) :
      (some c == separator && started) = (started && separator == some c) := by
    rw [Bool.and_comm, BEq.comm]
  fun_induction Cursor.digits source radix separator started position generalizing cs with
  | case1 started position c found digit ds stop read induction =>
      obtain ⟨tail, rfl⟩ := stands.eq_cons found
      have others := induction stands.tail
      rw [read] at others
      rw [Scan.digits, if_pos digit]
      exact ⟨congrArg (c :: ·) others.text, others.stands⟩
  | case2 started position c found noDigit divided induction =>
      obtain ⟨tail, rfl⟩ := stands.eq_cons found
      have others := induction stands.tail
      have isStarted : started = true := by
        simp only [Bool.and_eq_true] at divided
        exact divided.1.2
      rw [swap, stands.tail.holds] at divided
      rw [Scan.digits, if_neg noDigit, if_pos divided]
      rwa [isStarted] at others ⊢
  | case3 started position c found noDigit undivided =>
      obtain ⟨tail, rfl⟩ := stands.eq_cons found
      rw [swap, stands.tail.holds] at undivided
      rw [Scan.digits, if_neg noDigit, if_neg undivided]
      exact ⟨rfl, stands⟩
  | case4 started position ended =>
      obtain rfl := stands.eq_nil ended
      exact ⟨rfl, stands⟩

theorem Stands.exponentSign (stands : Stands source position cs) :
    Cursor.holds source (· == '-') position = (Scan.exponentSign cs).1 ∧
      Stands source
        (if Cursor.holds source (fun c => c == '+' || c == '-') position then position + 1 else position)
        (Scan.exponentSign cs).2 := by
  rw [stands.holds, stands.holds]
  fun_cases Scan.exponentSign cs with
  | case1 | case2 => exact ⟨rfl, stands.tail⟩
  | case3 _ noPlus noMinus =>
      cases cs with
      | nil => exact ⟨rfl, stands⟩
      | cons c cs =>
          have noPlus : c ≠ '+' := fun same => noPlus cs (by rw [same])
          have noMinus : c ≠ '-' := fun same => noMinus cs (by rw [same])
          simpa [Scan.startsWith, noPlus, noMinus] using stands

theorem Stands.exponent? (stands : Stands source position cs) :
    match Scan.exponent? cs with
    | some (given, exponent, rest) =>
      ∃ stop, exponent? source position = some (given, exponent, stop) ∧ Stands source stop rest
    | none => exponent? source position = none := by
  rw [Cursor.exponent?, stands.holds]
  cases cs with
  | nil => rfl
  | cons c cs =>
      obtain ⟨negative, behind⟩ := stands.tail.exponentSign
      have digits := behind.digits 10 none false
      by_cases letter : c = 'e' ∨ c = 'E'
      · have isLetter : Scan.startsWith (fun c => c == 'e' || c == 'E') (c :: cs) = true := by
          simpa [Scan.startsWith] using letter
        rw [Scan.exponent?, if_pos letter, if_pos isLetter, negative]
        simp only
        rw [← digits.text]
        exact ⟨_, rfl, digits.stands⟩
      · have noLetter : ¬Scan.startsWith (fun c => c == 'e' || c == 'E') (c :: cs) = true := by
          simpa [Scan.startsWith] using letter
        rw [Scan.exponent?, if_neg letter, if_neg noLetter]

theorem Stands.fraction? (stands : Stands source position cs) :
    match Scan.fraction? cs with
    | some (places, rest) => startsFraction source position = true ∧
      SamePart source (Cursor.digits source 10 none false (position + 1)) (places, rest)
    | none => startsFraction source position = false := by
  have point := stands.holds (· == '.')
  have name := stands.holds_add (fun c => Text.isNameStart c && c != 'e' && c != 'E') 1
  rw [startsFraction, point, name]
  fun_cases Scan.fraction? cs with
  | case1 rest named => simp_all [Scan.startsWith]
  | case2 rest named =>
      exact ⟨by simp_all [Scan.startsWith], stands.tail.digits 10 none false⟩
  | case3 _ noPoint =>
      cases cs with
      | nil => rfl
      | cons c cs =>
          have other : c ≠ '.' := fun same => noPoint cs (by rw [same])
          simp [Scan.startsWith, other]

section Ends

variable (begins : Stands source start first) (stands : Stands source position cs)
  (shorter : cs.length ≤ first.length)

include begins stands shorter

theorem agrees_invalidNumber :
    Agrees source (invalidNumber source start position)
      (.error (Scan.invalidNumber first cs)) := by
  have stop := stands.skip fun c => Text.isNameChar c || c == '.'
  have bound := (List.dropWhile_sublist (l := cs) fun c => Text.isNameChar c || c == '.').length_le
  have text := begins.slice? stop (Nat.le_trans bound shorter)
  rw [invalidNumber]
  simp only [text]
  exact .fault stop.inside

end Ends

theorem agrees_integer (stands : Stands source position cs) (radix : Nat) (ds : List Char) :
    Agrees source (integer radix ds position) (Scan.integer radix ds cs) := by
  rw [integer, Scan.integer]
  cases Numeral.word? radix ds with
  | some n => exact .token stands
  | none => exact .fault stands.inside

theorem agrees_behindPlaces (begins : Stands source start first) (stands : Stands source position cs)
    (shorter : cs.length ≤ first.length) (whole places : List Char) (isReal : Bool) :
    Agrees source (behindPlaces source start whole places isReal position)
      (Scan.behindPlaces first whole places isReal cs) := by
  have exponent := stands.exponent?
  rw [behindPlaces, Scan.behindPlaces]
  cases found : Scan.exponent? cs with
  | none =>
      rw [found] at exponent
      simp only [exponent, stands.holds]
      split
      · exact agrees_invalidNumber begins stands shorter
      · split
        · exact .token stands
        · exact agrees_integer stands 10 whole
  | some exp =>
      obtain ⟨given, exp, rest⟩ := exp
      rw [found] at exponent
      obtain ⟨stop, same, behind⟩ := exponent
      have shorter' : rest.length ≤ first.length :=
        Nat.le_trans (Nat.le_of_lt (Scan.exponent?_length_lt found)) shorter
      rw [same]
      cases given with
      | false => exact agrees_invalidNumber begins behind shorter'
      | true =>
          simp only [behind.holds]
          split
          · exact agrees_invalidNumber begins behind shorter'
          · exact .token behind

theorem agrees_decimal (begins : Stands source start first) (rules : Scan.Rules) :
    Agrees source (decimal source rules start) (Scan.decimal rules first) := by
  have whole := begins.digits 10 rules.separator false
  have shorter := Scan.digits_length_le 10 rules.separator false first
  have fraction := whole.stands.fraction?
  rw [decimal, Scan.decimal]
  simp only [whole.text]
  cases found : Scan.fraction? (Scan.digits 10 rules.separator false first).2 with
  | some parts =>
      obtain ⟨places, rest⟩ := parts
      rw [found] at fraction
      obtain ⟨isFraction, digits⟩ := fraction
      have shorter' : rest.length ≤ first.length :=
        Nat.le_trans (Nat.le_of_lt (Scan.fraction?_length_lt found)) shorter
      rw [if_pos isFraction, digits.text]
      exact agrees_behindPlaces begins digits.stands shorter' _ _ true
  | none =>
      rw [found] at fraction
      rw [if_neg (by rw [fraction]; exact Bool.false_ne_true)]
      exact agrees_behindPlaces begins whole.stands shorter _ _ false

theorem decimal_length_le {rules : Scan.Rules} {token : Token} {rest : List Char}
    (read : Scan.decimal rules first = .ok (token, rest)) : rest.length ≤ first.length := by
  have bound := Scan.digits_length_le 10 rules.separator false first
  unfold Scan.decimal at read
  simp only at read
  split at read
  · rename_i places tail found
    have shorter := Scan.fraction?_length_lt found
    cases Scan.behindPlaces_length read with
    | inl same => rw [same.1]; omega
    | inr shorter' => omega
  · cases Scan.behindPlaces_length read with
    | inl same => rw [same.1]; exact bound
    | inr shorter => omega

theorem agrees_inRadix (begins : Stands source start first) (rules : Scan.Rules) :
    Agrees source (inRadix source rules start) (Scan.inRadix rules first) := by
  have digits := begins.digits rules.radix (rules.separator.map fun _ => ' ') false
  have shorter := Scan.digits_length_le rules.radix (rules.separator.map fun _ => ' ') false first
  -- the reader goes back to the start and reads the numeral as a decimal one
  have again := agrees_decimal begins rules
  rw [inRadix, Scan.inRadix]
  simp only [digits.text, digits.stands.holds]
  split
  · have bound {token : Token} {rest : List Char}
        (read : Scan.decimal rules first = .ok (token, rest)) :
        rest.length ≤ first.length ∧ Scan.IsNumber token :=
      ⟨decimal_length_le read, Scan.isNumber_decimal read⟩
    generalize decimal source rules start = outcome at again ⊢
    generalize Scan.decimal rules first = result at again bound ⊢
    cases again with
    | fault inside => exact .fault inside
    | token behind =>
        obtain ⟨shorter', isNumber⟩ := bound rfl
        cases isNumber with
        | inl isInt =>
            obtain ⟨n, rfl⟩ := isInt
            exact agrees_invalidNumber begins behind shorter'
        | inr isReal =>
            obtain ⟨x, rfl⟩ := isReal
            exact .token behind
  · split
    · exact agrees_invalidNumber begins digits.stands shorter
    · exact agrees_integer digits.stands rules.radix _

theorem agrees_marked (begins : Stands source start first) (stands : Stands source position cs)
    (shorter : cs.length ≤ first.length) (radix : Nat) :
    Agrees source (marked source start radix position) (Scan.marked radix first cs) := by
  have digits := stands.digits radix none false
  have shorter' := Scan.digits_length_le radix none false cs
  rw [marked, Scan.marked]
  simp only [digits.text, digits.stands.holds]
  split
  · exact agrees_invalidNumber begins digits.stands (by omega)
  · cases Numeral.word? radix (Scan.digits radix none false cs).1 with
    | some n => exact .token digits.stands
    | none =>
        simp only
        split <;> exact .fault digits.stands.inside

theorem agrees_unmarked (begins : Stands source start first) (rules : Scan.Rules) :
    Agrees source (unmarked source rules start) (Scan.unmarked rules first) := by
  rw [unmarked, Scan.unmarked]
  split
  · exact agrees_decimal begins rules
  · exact agrees_inRadix begins rules

theorem agrees_number (begins : Stands source start first) (rules : Scan.Rules) :
    Agrees source (number source rules start) (Scan.number rules first) := by
  have unmarked := agrees_unmarked begins rules
  rw [number, begins.holds, begins.getElem? 1]
  cases first with
  | nil => exact unmarked
  | cons c first =>
      by_cases zero : c = '0'
      · subst c
        cases first with
        | nil => exact unmarked
        | cons mark rest =>
            have behind := begins.tail.tail
            have shorter : rest.length ≤ ('0' :: mark :: rest).length := Nat.le_add_right _ 2
            have isZero : Scan.startsWith (· == '0') ('0' :: mark :: rest) = true := rfl
            rw [Scan.number, if_pos isZero, List.getElem?_cons_succ, List.getElem?_cons_zero,
              Option.bind_some]
            cases Scan.markRadix? rules.radix mark with
            | none => exact unmarked
            | some radix =>
                simp only [behind.holds]
                split
                · exact agrees_marked begins behind shorter radix
                · split
                  · exact agrees_invalidNumber begins behind shorter
                  · exact unmarked
      · have noZero : ¬Scan.startsWith (· == '0') (c :: first) = true := by
          simpa [Scan.startsWith] using zero
        rw [if_neg noZero, Scan.number]
        · exact unmarked
        · rintro mark rest ⟨⟩
          exact zero rfl

end TemplateCalc.Cursor
