import TemplateCalc.Proofs.Calendar.Grammar
import TemplateCalc.Proofs.LeadingInteger

/-!
Real numerals at the front of texts.

A numeral is put together from the parts at the front of a text: a sign, digits, a fraction, an
exponent. Each part is as long as it can be. A text that starts with a numeral can go on only in the
last part the numeral has, or with parts it does not have, so the numeral found is the longest one; and
a numeral is determined by its text.
-/

set_option autoImplicit false

namespace TemplateCalc.Strings

/-! ### Real numerals -/

inductive Sign where
  | absent | plus | minus

def Sign.text : Sign → List Char
  | .absent => []
  | .plus => ['+']
  | .minus => ['-']

def Sign.isMinus : Sign → Bool
  | .minus => true
  | _ => false

structure Exponent where
  letter : Char
  sign : Sign
  digits : List Char

def isSign (c : Char) : Bool :=
  c == '+' || c == '-'

def isExponentLetter (c : Char) : Bool :=
  c == 'e' || c == 'E'

def Exponent.text (e : Exponent) : List Char :=
  e.letter :: (e.sign.text ++ e.digits)

structure Exponent.IsWritten (e : Exponent) : Prop where
  letter : isExponentLetter e.letter = true
  some : e.digits ≠ []
  digits : ∀ c ∈ e.digits, c.isDigit = true

/-- A real numeral: digits with an optional point behind or among them or in front of them, and an
optional exponent. -/
structure RealNumeral where
  sign : Sign
  whole : List Char
  fraction : Option (List Char)
  exponent : Option Exponent

def fractionText (fraction : Option (List Char)) : List Char :=
  fraction.elim [] ('.' :: ·)

def exponentText (exponent : Option Exponent) : List Char :=
  exponent.elim [] Exponent.text

namespace RealNumeral

variable (d : RealNumeral)

def places : List Char :=
  d.whole ++ fractionText d.fraction

def text : List Char :=
  d.sign.text ++ (d.places ++ exponentText d.exponent)

def digits : List Char :=
  d.whole ++ d.fraction.getD []

def toFloat : Float :=
  let exponent := d.exponent.elim 0 fun e => Double.signedExponent e.sign.isMinus e.digits
  let unsigned := Double.DecimalNumeral.toFloat ⟨d.whole, d.fraction.getD [], exponent⟩
  if d.sign.isMinus then -unsigned else unsigned

structure IsWritten : Prop where
  whole : ∀ c ∈ d.whole, c.isDigit = true
  fraction : ∀ ds ∈ d.fraction, ∀ c ∈ ds, c.isDigit = true
  digits : d.digits ≠ []
  exponent : ∀ e ∈ d.exponent, e.IsWritten

end RealNumeral

def IsReal (p : List Char) : Prop :=
  ∃ d : RealNumeral, d.IsWritten ∧ d.text = p

def Denotes (p : List Char) (x : Float) : Prop :=
  ∃ d : RealNumeral, d.IsWritten ∧ d.text = p ∧ d.toFloat = x

/-! ### The parts at the front of a text -/

def signAt : List Char → Sign
  | '-' :: _ => .minus
  | '+' :: _ => .plus
  | _ => .absent

def digitsAt (cs : List Char) : List Char :=
  cs.takeWhile Char.isDigit

def behindDigits (cs : List Char) : List Char :=
  cs.dropWhile Char.isDigit

def fractionAt : List Char → Option (List Char)
  | '.' :: cs => some (digitsAt cs)
  | _ => none

def behindFraction : List Char → List Char
  | '.' :: cs => behindDigits cs
  | cs => cs

def exponentAt : List Char → Option Exponent
  | c :: cs =>
    if isExponentLetter c && !(digitsAt (behindSign cs)).isEmpty then
      some ⟨c, signAt cs, digitsAt (behindSign cs)⟩
    else none
  | [] => none

/-- The numeral at the front of a text; it may be without digits. -/
def realAt (cs : List Char) : RealNumeral :=
  let unsigned := behindSign cs
  ⟨signAt cs, digitsAt unsigned, fractionAt (behindDigits unsigned),
    exponentAt (behindFraction (behindDigits unsigned))⟩

section Parts

variable {cs ds : List Char}

theorem isDigit_of_mem_digitsAt {c : Char} (member : c ∈ digitsAt cs) : c.isDigit = true :=
  List.mem_takeWhile_imp member

theorem digitsAt_split (cs : List Char) : digitsAt cs ++ behindDigits cs = cs :=
  List.takeWhile_append_dropWhile

theorem sign_split (cs : List Char) : (signAt cs).text ++ behindSign cs = cs := by
  fun_cases signAt cs with
  | case1 | case2 => rfl
  | case3 _ noMinus noPlus => exact (unsigned_of noMinus noPlus).1

theorem fraction_split (cs : List Char) :
    fractionText (fractionAt cs) ++ behindFraction cs = cs := by
  fun_cases fractionAt cs with
  | case1 cs => exact congrArg ('.' :: ·) (digitsAt_split cs)
  | case2 cs noPoint =>
      rw [behindFraction]
      · rfl
      · exact noPoint

theorem exponent_split (cs : List Char) :
    ∃ rest, exponentText (exponentAt cs) ++ rest = cs := by
  fun_cases exponentAt cs with
  | case1 c cs found =>
      refine ⟨behindDigits (behindSign cs), ?_⟩
      rw [exponentText, Option.elim_some, Exponent.text, List.cons_append, List.append_assoc,
        digitsAt_split, sign_split]
  | case2 | case3 => exact ⟨_, rfl⟩

theorem places_split (cs : List Char) :
    (realAt cs).sign.text ++ (realAt cs).places ++
      behindFraction (behindDigits (behindSign cs)) = cs := by
  rw [RealNumeral.places, realAt]
  simp only [List.append_assoc]
  rw [fraction_split, digitsAt_split, sign_split]

theorem realAt_split (cs : List Char) : ∃ rest, (realAt cs).text ++ rest = cs := by
  obtain ⟨rest, split⟩ := exponent_split (behindFraction (behindDigits (behindSign cs)))
  refine ⟨rest, ?_⟩
  calc (realAt cs).text ++ rest
      = (realAt cs).sign.text ++ (realAt cs).places ++
          (exponentText (realAt cs).exponent ++ rest) := by
        simp only [RealNumeral.text, List.append_assoc]
    _ = (realAt cs).sign.text ++ (realAt cs).places ++
          behindFraction (behindDigits (behindSign cs)) := congrArg _ split
    _ = cs := places_split cs

theorem digitsAt_append (all : ∀ c ∈ ds, c.isDigit = true) (cs : List Char) :
    digitsAt (ds ++ cs) = ds ++ digitsAt cs ∧ behindDigits (ds ++ cs) = behindDigits cs :=
  ⟨List.takeWhile_append_of_pos all, List.dropWhile_append_of_pos all⟩

theorem digitsAt_cons {c : Char} (noDigit : c.isDigit = false) (cs : List Char) :
    digitsAt (c :: cs) = [] ∧ behindDigits (c :: cs) = c :: cs := by
  simp [digitsAt, behindDigits, noDigit]

theorem signAt_append (sign : Sign) {c : Char} (noSign : isSign c = false) (cs : List Char) :
    signAt (sign.text ++ c :: cs) = sign ∧ behindSign (sign.text ++ c :: cs) = c :: cs := by
  cases sign with
  | plus | minus => exact ⟨rfl, rfl⟩
  | absent =>
      simp only [isSign, Bool.or_eq_false_iff, beq_eq_false_iff_ne] at noSign
      simp [Sign.text, signAt, behindSign, noSign]

theorem isSign_of_isDigit {c : Char} (digit : c.isDigit = true) : isSign c = false := by
  rw [isSign, Bool.or_eq_false_iff, beq_eq_false_iff_ne, beq_eq_false_iff_ne]
  constructor <;> rintro rfl <;> cases digit

theorem exponentAt_append {e : Exponent} (written : e.IsWritten) (rest : List Char) :
    exponentAt (e.text ++ rest) = some { e with digits := e.digits ++ digitsAt rest } := by
  obtain ⟨letter, sign, ds⟩ := e
  obtain ⟨isLetter, nonempty, digits⟩ := written
  cases ds with
  | nil => exact absurd rfl nonempty
  | cons c ds =>
      have first := digits c List.mem_cons_self
      obtain ⟨same, split⟩ := signAt_append sign (isSign_of_isDigit first) (ds ++ rest)
      have found : digitsAt (c :: (ds ++ rest)) = c :: ds ++ digitsAt rest :=
        (digitsAt_append digits rest).1
      rw [Exponent.text, List.cons_append, List.append_assoc, List.cons_append, exponentAt, split,
        same, found, isLetter]
      rfl

/-- Neither digits nor a fraction go on with an exponent. -/
theorem ends_at_exponent {e : Exponent} (written : e.IsWritten) (rest : List Char) :
    (digitsAt (e.text ++ rest) = [] ∧ behindDigits (e.text ++ rest) = e.text ++ rest) ∧
      fractionAt (e.text ++ rest) = none ∧ behindFraction (e.text ++ rest) = e.text ++ rest := by
  have letter := written.letter
  rw [isExponentLetter, Bool.or_eq_true, beq_iff_eq, beq_iff_eq] at letter
  rw [Exponent.text]
  cases letter with
  | inl small => rw [small]; exact ⟨⟨rfl, rfl⟩, rfl, rfl⟩
  | inr capital => rw [capital]; exact ⟨⟨rfl, rfl⟩, rfl, rfl⟩

theorem isDigit_of_mem_fractionAt {ds : List Char} (found : ds ∈ fractionAt cs) :
    ∀ c ∈ ds, c.isDigit = true := by
  revert found
  fun_cases fractionAt cs with
  | case1 cs =>
      rintro ⟨⟩
      exact fun c member => isDigit_of_mem_digitsAt member
  | case2 =>
      intro impossible
      cases impossible

theorem isWritten_of_mem_exponentAt {e : Exponent} (found : e ∈ exponentAt cs) : e.IsWritten := by
  revert found
  fun_cases exponentAt cs with
  | case1 c cs found =>
      rintro ⟨⟩
      rw [Bool.and_eq_true, Bool.not_eq_true', List.isEmpty_eq_false_iff] at found
      exact ⟨found.1, found.2, fun d member => isDigit_of_mem_digitsAt member⟩
  | case2 | case3 =>
      intro impossible
      cases impossible

theorem realAt_isWritten (found : (realAt cs).digits ≠ []) : (realAt cs).IsWritten where
  whole := fun _ member => isDigit_of_mem_digitsAt member
  fraction := fun _ member => isDigit_of_mem_fractionAt member
  digits := found
  exponent := fun _ member => isWritten_of_mem_exponentAt member

/-- Without digits, there is nothing or a point. -/
theorem digits_eq_nil_iff {d : RealNumeral} (digits : ∀ c ∈ d.whole, c.isDigit = true) :
    d.digits = [] ↔ d.places = [] ∨ d.places = ['.'] := by
  obtain ⟨sign, whole, fraction, exponent⟩ := d
  have noPoint : '.' ∉ whole := by
    intro member
    cases digits '.' member
  simp only [RealNumeral.digits, RealNumeral.places, fractionText]
  cases fraction with
  | none =>
      have other : whole ≠ ['.'] := by
        intro same
        exact noPoint (by rw [same]; exact List.mem_singleton_self '.')
      simp [other]
  | some ds =>
      cases whole with
      | nil => simp
      | cons c cs => simp

end Parts

/-! ### The numeral found is the longest -/

def RealNumeral.continued (d : RealNumeral) (rest : List Char) : RealNumeral :=
  match d.exponent, d.fraction with
  | some e, _ => { d with exponent := some { e with digits := e.digits ++ digitsAt rest } }
  | none, some ds =>
    { d with
      fraction := some (ds ++ digitsAt rest)
      exponent := exponentAt (behindDigits rest) }
  | none, none =>
    { d with
      whole := d.whole ++ digitsAt rest
      fraction := fractionAt (behindDigits rest)
      exponent := exponentAt (behindFraction (behindDigits rest)) }

section Longest

variable {d : RealNumeral}

/-- A numeral does not go on with a sign, so that the sign in front of it is its own. -/
theorem realAt_sign (written : d.IsWritten) (rest : List Char) :
    realAt (d.sign.text ++ (d.places ++ rest)) =
      ⟨d.sign, digitsAt (d.places ++ rest), fractionAt (behindDigits (d.places ++ rest)),
        exponentAt (behindFraction (behindDigits (d.places ++ rest)))⟩ := by
  have starts : ∃ c cs, isSign c = false ∧ d.places ++ rest = c :: cs := by
    obtain ⟨sign, whole, fraction, exponent⟩ := d
    cases whole with
    | cons c cs =>
        exact ⟨c, _, isSign_of_isDigit (written.whole c List.mem_cons_self), rfl⟩
    | nil =>
        cases fraction with
        | some ds => exact ⟨'.', _, rfl, rfl⟩
        | none => exact absurd rfl written.digits
  obtain ⟨c, cs, noSign, same⟩ := starts
  obtain ⟨first, behind⟩ := signAt_append d.sign noSign cs
  rw [same, realAt, first, behind]

theorem realAt_text_append (written : d.IsWritten) (rest : List Char) :
    realAt (d.text ++ rest) = d.continued rest := by
  rw [RealNumeral.text, List.append_assoc, List.append_assoc, realAt_sign written,
    RealNumeral.places]
  have whole := digitsAt_append written.whole
  have point (cs : List Char) := digitsAt_cons (c := '.') rfl cs
  obtain ⟨sign, ds, fraction, exponent⟩ := d
  cases exponent with
  | some e =>
      have goesOn := exponentAt_append (written.exponent e rfl) rest
      have ends := ends_at_exponent (written.exponent e rfl) rest
      cases fraction with
      | some ds =>
          have behind := digitsAt_append (written.fraction ds rfl)
          simp [fractionText, exponentText, whole, point, fractionAt, behindFraction, behind, ends,
            goesOn, RealNumeral.continued]
      | none =>
          simp [fractionText, exponentText, whole, ends, goesOn, RealNumeral.continued]
  | none =>
      cases fraction with
      | some ds =>
          have behind := digitsAt_append (written.fraction ds rfl)
          simp [fractionText, exponentText, whole, point, fractionAt, behindFraction, behind,
            RealNumeral.continued]
      | none =>
          simp [fractionText, exponentText, whole, RealNumeral.continued]

theorem continued_nil (d : RealNumeral) : d.continued [] = d := by
  obtain ⟨sign, whole, fraction, exponent⟩ := d
  cases exponent <;> cases fraction <;>
    simp [RealNumeral.continued, digitsAt, behindDigits, exponentAt, fractionAt, behindFraction]

theorem text_isPrefix_continued (d : RealNumeral) (rest : List Char) :
    d.text <+: (d.continued rest).text := by
  obtain ⟨sign, whole, fraction, exponent⟩ := d
  cases exponent <;> cases fraction <;>
    simp [RealNumeral.continued, RealNumeral.text, RealNumeral.places, fractionText, exponentText,
      Exponent.text]

theorem realAt_text (written : d.IsWritten) : realAt d.text = d := by
  have found := realAt_text_append written []
  rwa [List.append_nil, continued_nil] at found

theorem digits_continued (written : d.IsWritten) (rest : List Char) :
    (d.continued rest).digits ≠ [] := by
  have nonempty := written.digits
  obtain ⟨sign, whole, fraction, exponent⟩ := d
  cases exponent <;> cases fraction <;>
    simp_all [RealNumeral.continued, RealNumeral.digits]

/-- The numeral that is found is the longest, and the only one with its text. -/
theorem isLongest_realAt {cs : List Char} (found : (realAt cs).digits ≠ []) :
    IsLongest IsReal (realAt cs).text cs where
  isFront := realAt_split cs
  holds := ⟨realAt cs, realAt_isWritten found, rfl⟩
  longest := by
    rintro p ⟨rest, rfl⟩ ⟨d, written, rfl⟩
    rw [realAt_text_append written]
    exact text_isPrefix_continued d rest

example : (realAt "-.5e+x".toList).text = "-.5".toList := by decide

theorem digits_realAt {p cs : List Char} (front : p <+: cs) (real : IsReal p) :
    (realAt cs).digits ≠ [] := by
  obtain ⟨rest, rfl⟩ := front
  obtain ⟨d, written, rfl⟩ := real
  rw [realAt_text_append written]
  exact digits_continued written rest

theorem denotes_iff {d : RealNumeral} (written : d.IsWritten) (x : Float) :
    Denotes d.text x ↔ x = d.toFloat := by
  constructor
  · rintro ⟨other, written', same, rfl⟩
    rw [← realAt_text written, ← same, realAt_text written']
  · rintro rfl
    exact ⟨d, written, rfl, rfl⟩

end Longest

/-! ### Its double -/

theorem leadingDigits_eq (cs : List Char) : Double.leadingDigits cs = digitsAt cs := by
  have same : Numeral.isDigit 10 = Char.isDigit := funext fun _ => Numeral.isDigit_ten
  rw [Double.leadingDigits, same]
  rfl

theorem match_sign {α : Type} (f : Bool → List Char → α) (cs : List Char) :
    (match cs with
      | '-' :: rest => f true rest
      | '+' :: rest => f false rest
      | rest => f false rest) = f (signAt cs).isMinus (behindSign cs) := by
  fun_cases signAt cs with
  | case1 | case2 => rfl
  | case3 _ noMinus noPlus =>
      rw [(unsigned_of noMinus noPlus).1]
      split
      · exact absurd rfl (noMinus _)
      · exact absurd rfl (noPlus _)
      · rfl

theorem leadingExponent_eq (cs : List Char) :
    Double.leadingExponent cs =
      (exponentAt cs).elim 0 fun e => Double.signedExponent e.sign.isMinus e.digits := by
  cases cs with
  | nil => rfl
  | cons c cs =>
      have signed := match_sign
        (fun negative ds => Double.signedExponent negative (Double.leadingDigits ds)) cs
      have step : Double.leadingExponent (c :: cs) = if c = 'e' ∨ c = 'E' then
          Double.signedExponent (signAt cs).isMinus (digitsAt (behindSign cs)) else 0 := by
        rw [← leadingDigits_eq, ← signed]
        rfl
      rw [step, exponentAt]
      by_cases letter : c = 'e' ∨ c = 'E'
      · have isLetter : isExponentLetter c = true := by simpa [isExponentLetter] using letter
        rw [if_pos letter, isLetter]
        cases digits : digitsAt (behindSign cs) with
        | nil => cases (signAt cs).isMinus <;> rfl
        | cons d ds => rfl
      · have noLetter : isExponentLetter c = false := by simpa [isExponentLetter] using letter
        rw [if_neg letter, noLetter]
        rfl

theorem leadingNumeral?_eq (cs : List Char) :
    Double.leadingNumeral? cs =
      if digitsAt cs ++ (fractionAt (behindDigits cs)).getD [] = [] then none
      else some ⟨digitsAt cs, (fractionAt (behindDigits cs)).getD [],
        Double.leadingExponent (behindFraction (behindDigits cs))⟩ := by
  have behind (cs : List Char) : cs.drop (digitsAt cs).length = behindDigits cs :=
    Scan.drop_takeWhile Char.isDigit cs
  unfold Double.leadingNumeral?
  simp only [leadingDigits_eq, behind]
  fun_cases fractionAt (behindDigits cs) with
  | case1 | case2 => simp [behindFraction]

theorem leadingSigned_eq (cs : List Char) :
    Double.leadingSigned cs =
      if (realAt cs).digits = [] then 0.0 else (realAt cs).toFloat := by
  have signed := match_sign (fun negative rest => (Double.leadingNumeral? rest).elim 0.0
    fun d => if negative then -d.toFloat else d.toFloat) cs
  have same : Double.leadingSigned cs = _ := signed
  rw [same, leadingNumeral?_eq]
  simp only [leadingExponent_eq]
  change (if (realAt cs).digits = [] then _ else _ : Option Double.DecimalNumeral).elim _ _ = _
  split <;> rfl

end TemplateCalc.Strings
