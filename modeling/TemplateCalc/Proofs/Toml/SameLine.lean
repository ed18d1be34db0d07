import TemplateCalc.Proofs.Calendar.Grammar
import TemplateCalc.Toml.Document

/-!
Readers that stay on a line.

Keys, numbers, dates and strings of one line are read without passing the end of a line. All readers
take what they recognise from the front of a text, so what they leave is an end of it.
-/

set_option autoImplicit false

namespace TemplateCalc.Toml

theorem bind_eq_ok {ε α β : Type} {x : Except ε α} {f : α → Except ε β} {b : β}
    (done : x >>= f = .ok b) : ∃ a, x = .ok a ∧ f a = .ok b := by
  cases x with
  | error e => cases done
  | ok a => exact ⟨a, rfl, done⟩

def SameLine (cs rest : List Char) : Prop :=
  ∃ u, '\n' ∉ u ∧ cs = u ++ rest

namespace SameLine

variable {cs ds rest : List Char}

theorem refl (cs : List Char) : SameLine cs cs :=
  ⟨[], List.not_mem_nil, rfl⟩

theorem trans (first : SameLine cs ds) (second : SameLine ds rest) : SameLine cs rest := by
  obtain ⟨u, inLine, rfl⟩ := first
  obtain ⟨v, inLine', rfl⟩ := second
  refine ⟨u ++ v, ?_, (List.append_assoc u v rest).symm⟩
  rw [List.mem_append, not_or]
  exact ⟨inLine, inLine'⟩

theorem cons {c : Char} (other : c ≠ '\n') (same : SameLine cs rest) : SameLine (c :: cs) rest := by
  obtain ⟨u, inLine, rfl⟩ := same
  refine ⟨c :: u, ?_, rfl⟩
  rw [List.mem_cons, not_or]
  exact ⟨other.symm, inLine⟩

theorem notMem_takeWhile {test : Char → Bool} (stops : test '\n' = false) (cs : List Char) :
    '\n' ∉ cs.takeWhile test := by
  intro member
  have passes := List.all_eq_true.mp List.all_takeWhile '\n' member
  rw [stops] at passes
  cases passes

theorem dropWhile {test : Char → Bool} (stops : test '\n' = false) (cs : List Char) :
    SameLine cs (cs.dropWhile test) :=
  ⟨cs.takeWhile test, notMem_takeWhile stops cs, List.takeWhile_append_dropWhile.symm⟩

theorem drop {count : Nat} (stops : '\n' ∉ cs.take count) : SameLine cs (cs.drop count) :=
  ⟨cs.take count, stops, (List.take_append_drop count cs).symm⟩

theorem drop_of_le {test : Char → Bool} (stops : test '\n' = false) {cs : List Char} {count : Nat}
    (inside : count ≤ (cs.takeWhile test).length) : SameLine cs (cs.drop count) := by
  have front : cs.take (cs.takeWhile test).length = cs.takeWhile test :=
    (List.prefix_iff_eq_take.mp (List.takeWhile_prefix test)).symm
  have part : cs.take count = (cs.takeWhile test).take count := by
    rw [← front, List.take_take, Nat.min_eq_left inside]
  apply drop
  rw [part]
  exact fun member => notMem_takeWhile stops cs (List.mem_of_mem_take member)

theorem drop_takeWhile {test : Char → Bool} (stops : test '\n' = false) (cs : List Char) :
    SameLine cs (cs.drop (cs.takeWhile test).length) :=
  drop_of_le stops (Nat.le_refl _)

end SameLine

/-! ### Blanks and comments -/

theorem sameLine_skipSpaces (cs : List Char) : SameLine cs (skipSpaces cs) :=
  .dropWhile rfl cs

theorem sameLine_skipComment (cs : List Char) : SameLine cs (skipComment cs) := by
  unfold skipComment
  split
  · exact .cons (by decide) (.dropWhile rfl _)
  · exact .refl cs

/-! ### Strings -/

section Strings

variable {cs rest chars : List Char}

theorem isDigit_newline (radix : Nat) : Numeral.isDigit radix '\n' = false :=
  rfl

theorem characterOf?_digits {ds : List Char} {c : Char} (read : characterOf? ds = some c) :
    '\n' ∉ ds := by
  intro member
  have valid : ds.all (Numeral.isDigit 16) = true := by
    dsimp only [characterOf?] at read
    split at read
    · rename_i valid
      exact (Bool.and_eq_true_iff.mp valid).1
    · cases read
  have digit := List.all_eq_true.mp valid '\n' member
  rw [isDigit_newline] at digit
  cases digit

theorem sameLine_append {u : List Char} (inLine : '\n' ∉ u) (rest : List Char) :
    SameLine (u ++ rest) rest :=
  ⟨u, inLine, rfl⟩

theorem sameLine_escape? {c : Char} (read : escape? cs = some (c, rest)) : SameLine cs rest := by
  revert read
  fun_cases escape? cs with
  | case8 a b c d tail =>
      intro read
      obtain ⟨_, code, same⟩ := Option.map_eq_some_iff.mp read
      injection same with _ same
      subst same
      exact .cons (by decide) (sameLine_append (characterOf?_digits code) _)
  | case9 a b c d e f g h tail =>
      intro read
      obtain ⟨_, code, same⟩ := Option.map_eq_some_iff.mp read
      injection same with _ same
      subst same
      exact .cons (by decide) (sameLine_append (characterOf?_digits code) _)
  | case10 => 
      intro read
      cases read
  | _ =>
      intro read
      injection read with read
      injection read with _ same
      subst same
      exact .cons (by decide) (.refl _)

theorem not_isVisible_newline : isVisible '\n' = false :=
  rfl

theorem ne_newline_of_isVisible {c : Char} (visible : isVisible c = true) : c ≠ '\n' := by
  rintro rfl
  rw [not_isVisible_newline] at visible
  cases visible

theorem sameLine_stringTail {mark : Char} (isMark : mark ≠ '\n') {line fuel : Nat}
    (read : stringTail mark line fuel cs = .ok (chars, rest)) : SameLine cs rest := by
  induction fuel generalizing cs chars with
  | zero => cases read
  | succ fuel ih =>
      cases cs with
      | nil => cases read
      | cons c tail =>
          rw [stringTail] at read
          split at read
          · rename_i closes
            cases read
            rw [beq_iff_eq] at closes
            exact .cons (closes ▸ isMark) (.refl _)
          · split at read
            · rename_i backslash
              rw [Bool.and_eq_true, beq_iff_eq] at backslash
              split at read
              · cases read
              · rename_i escaped behind found
                obtain ⟨⟨cs, rest⟩, more, same⟩ := bind_eq_ok read
                cases same
                have escape := sameLine_escape? found
                exact .cons (by rw [backslash.1]; decide) (escape.trans (ih more))
            · split at read
              · rename_i visible
                obtain ⟨⟨cs, rest⟩, more, same⟩ := bind_eq_ok read
                cases same
                exact .cons (ne_newline_of_isVisible visible) (ih more)
              · cases read

end Strings

/-! ### Keys -/

section Keys

variable {cs rest : List Char} {line : Nat}

theorem isMark_of_startsString (starts : startsString cs = true) :
    ∃ mark tail, cs = mark :: tail ∧ (mark = '"' ∨ mark = literalMark) := by
  cases cs with
  | nil => cases starts
  | cons c tail =>
      refine ⟨c, tail, rfl, ?_⟩
      simpa [startsString] using starts

theorem isMark_ne_newline {mark : Char} (isMark : mark = '"' ∨ mark = literalMark) :
    mark ≠ '\n' := by
  rcases isMark with rfl | rfl <;> decide

/-- A part of a key is a string, or a word that is not empty. -/
theorem keyPart_cases {part : String} (read : keyPart line cs = .ok (some (part, rest))) :
    startsString cs = true ∧ SameLine cs rest ∨
      (∃ c tail, cs = c :: tail ∧ isKeyChar c = true) ∧ part = String.ofList (cs.takeWhile isKeyChar) ∧
        SameLine cs rest := by
  rw [keyPart] at read
  split at read
  · rename_i starts
    obtain ⟨mark, tail, rfl, isMark⟩ := isMark_of_startsString starts
    obtain ⟨⟨chars, behind⟩, more, same⟩ := bind_eq_ok read
    cases same
    have tail := sameLine_stringTail (isMark_ne_newline isMark) more
    exact .inl ⟨starts, .cons (isMark_ne_newline isMark) tail⟩
  · dsimp only [pure, Except.pure] at read
    split at read
    · cases read
    · rename_i nonempty
      cases read
      refine .inr ⟨?_, rfl, .drop_takeWhile rfl cs⟩
      cases cs with
      | nil => exact absurd rfl nonempty
      | cons c tail =>
          refine ⟨c, tail, rfl, ?_⟩
          by_cases keyChar : isKeyChar c = true
          · exact keyChar
          · rw [List.takeWhile_cons_of_neg keyChar] at nonempty
            exact absurd rfl nonempty

theorem sameLine_keyPart {part : String} (read : keyPart line cs = .ok (some (part, rest))) :
    SameLine cs rest := by
  rcases keyPart_cases read with ⟨_, same⟩ | ⟨_, _, same⟩
  · exact same
  · exact same

def PartBehind (line : Nat) (cs : List Char) (key : Key) : Prop :=
  key.line = line ∧ ∃ text rest, SameLine cs text ∧ keyPart line text = .ok (some (key.name, rest))

theorem PartBehind.behind {cs ds : List Char} {key : Key} (same : SameLine cs ds)
    (part : PartBehind line ds key) : PartBehind line cs key := by
  obtain ⟨onLine, text, rest, reached, read⟩ := part
  exact ⟨onLine, text, rest, same.trans reached, read⟩

/-- A key has at least one part, and all its parts are on the line on which it begins. -/
theorem keyParts_ok {fuel : Nat} {path : List Key}
    (read : keyParts line fuel cs = .ok (some (path, rest))) :
    SameLine cs rest ∧ (∀ key ∈ path, PartBehind line cs key) ∧
      ∃ first more behind, path = first :: more ∧
        keyPart line (skipSpaces cs) = .ok (some (first.name, behind)) := by
  -- one part of the key for each unit of fuel
  induction fuel generalizing cs path rest with
  | zero => cases read
  | succ fuel ih =>
      rw [keyParts] at read
      obtain ⟨found, part, read⟩ := bind_eq_ok read
      cases found with
      | none => cases read
      | some found =>
          obtain ⟨name, behind⟩ := found
          have front : SameLine cs (skipSpaces behind) :=
            (sameLine_skipSpaces cs).trans ((sameLine_keyPart part).trans (sameLine_skipSpaces behind))
          have own : PartBehind line cs ⟨name, line⟩ :=
            ⟨rfl, _, _, sameLine_skipSpaces cs, part⟩
          have single (key : Key) (member : key ∈ [⟨name, line⟩]) : PartBehind line cs key := by
            rw [List.mem_singleton.mp member]
            exact own
          dsimp only at read
          split at read
          · rename_i tail dot
            rw [dot] at front
            have past : SameLine cs tail := front.trans (.cons (by decide) (.refl tail))
            obtain ⟨more, onward, read⟩ := bind_eq_ok read
            split at read
            · rename_i path' rest'
              cases read
              obtain ⟨same, parts, _⟩ := ih onward
              refine ⟨past.trans same, ?_, _, _, _, rfl, part⟩
              intro key member
              rcases List.mem_cons.mp member with rfl | member
              · exact own
              · exact (parts key member).behind past
            · cases read
              exact ⟨front, single, _, _, _, rfl, part⟩
          · cases read
            exact ⟨front, single, _, _, _, rfl, part⟩

theorem keyPath_ok {c : Cursor} {path : List Key} (read : keyPath c = .ok (some (path, rest))) :
    SameLine c.rest rest ∧ (∀ key ∈ path, PartBehind c.line c.rest key) ∧
      ∃ first more behind, path = first :: more ∧
        keyPart c.line (skipSpaces c.rest) = .ok (some (first.name, behind)) := by
  obtain ⟨found, parts, same⟩ := bind_eq_ok read
  injection same with same
  obtain ⟨rfl, _⟩ := Option.filter_eq_some_iff.mp same
  exact keyParts_ok parts

end Keys

/-! ### Numbers -/

section Numbers

variable {cs rest ds : List Char} {radix : Nat}

theorem ne_newline_of_isDigit {c : Char} (digit : Numeral.isDigit radix c = true) : c ≠ '\n' := by
  rintro rfl
  rw [isDigit_newline] at digit
  cases digit

theorem digits?_some (read : digits? radix cs = some (ds, rest)) :
    SameLine cs rest ∧ ∃ c tail, cs = c :: tail ∧ Numeral.isDigit radix c = true := by
  fun_induction digits? radix cs generalizing ds rest with
  | case1 c tail digit ds' rest' more ih =>
      cases read
      have other := ne_newline_of_isDigit digit
      exact ⟨.cons other (.cons (by decide) (ih more).1), c, _, rfl, digit⟩
  | case2 c tail digit none ih =>
      cases read
      exact ⟨.cons (ne_newline_of_isDigit digit) (.refl _), c, _, rfl, digit⟩
  | case3 c tail other => cases read
  | case4 c tail _ digit ds' rest' more ih =>
      cases read
      exact ⟨.cons (ne_newline_of_isDigit digit) (ih more).1, c, _, rfl, digit⟩
  | case5 c tail _ digit none ih =>
      cases read
      exact ⟨.cons (ne_newline_of_isDigit digit) (.refl _), c, _, rfl, digit⟩
  | case6 c tail _ other => cases read
  | case7 => cases read

theorem wholeDigits?_some (read : wholeDigits? cs = some (ds, rest)) :
    SameLine cs rest ∧ ∃ c tail, cs = c :: tail ∧ Numeral.isDigit 10 c = true := by
  unfold wholeDigits? at read
  split at read
  · cases read
    exact ⟨.cons (by decide) (.refl _), '0', _, rfl, rfl⟩
  · exact digits?_some read

theorem sameLine_sign (cs : List Char) : SameLine cs (sign cs).2 := by
  fun_cases sign cs with
  | case1 tail => exact .cons (by decide) (.refl tail)
  | case2 tail => exact .cons (by decide) (.refl tail)
  | case3 => exact .refl cs

theorem sameLine_exponent? {e : Int} (read : exponent? cs = some (e, rest)) : SameLine cs rest := by
  cases cs with
  | nil => cases read
  | cons c tail =>
      rw [exponent?] at read
      split at read
      · rename_i mark
        obtain ⟨⟨ds, after⟩, digits, same⟩ := Option.bind_eq_some_iff.mp read
        cases same
        have other : c ≠ '\n' := by
          rintro rfl
          cases mark
        exact .cons other ((sameLine_sign tail).trans (digits?_some digits).1)
      · cases read

def opensNumber (c : Char) : Bool :=
  c == '-' || c == '+' || Numeral.isDigit 10 c || c == 'i' || c == 'n'

theorem opensNumber_of_isDigit {c : Char} (digit : Numeral.isDigit 10 c = true) :
    opensNumber c = true := by
  simp [opensNumber, digit]

/-- What begins with an opening character behind its sign does so in front of it. -/
theorem opensNumber_of_sign
    (opens : ∃ c tail, (sign cs).2 = c :: tail ∧ opensNumber c = true) :
    ∃ c tail, cs = c :: tail ∧ opensNumber c = true := by
  revert opens
  fun_cases sign cs with
  | case1 tail => exact fun _ => ⟨'-', tail, rfl, rfl⟩
  | case2 tail => exact fun _ => ⟨'+', tail, rfl, rfl⟩
  | case3 => exact id

/-- What a reader of numbers takes: characters of one line, the first of which opens a number. -/
def TakesNumber (cs rest : List Char) : Prop :=
  SameLine cs rest ∧ ∃ c tail, cs = c :: tail ∧ opensNumber c = true

theorem takesNumber_wholeDigits? (read : wholeDigits? (sign cs).2 = some (ds, rest)) :
    TakesNumber cs rest := by
  obtain ⟨same, c, tail, opens, digit⟩ := wholeDigits?_some read
  exact ⟨(sameLine_sign cs).trans same,
    opensNumber_of_sign ⟨c, tail, opens, opensNumber_of_isDigit digit⟩⟩

theorem takesNumber_marked {mark : Char} {tail : List Char} (other : mark ≠ '\n')
    (read : digits? radix tail = some (ds, rest)) : TakesNumber ('0' :: mark :: tail) rest :=
  ⟨.cons (by decide) (.cons other (digits?_some read).1), '0', _, rfl, rfl⟩

/-- A number ends where its digits end. -/
theorem digits_of_number {digits : Option (List Char × List Char)} {number : List Char → Option Int64}
    {n : Int64}
    (read : (do
      let (ds, rest) ← digits
      return (← number ds, rest) : Option (Int64 × List Char)) = some (n, rest)) :
    ∃ ds, digits = some (ds, rest) := by
  obtain ⟨⟨ds, behind⟩, found, read⟩ := Option.bind_eq_some_iff.mp read
  obtain ⟨_, _, same⟩ := Option.bind_eq_some_iff.mp read
  cases same
  exact ⟨ds, found⟩

theorem takesNumber_integer? {n : Int64} (read : integer? cs = some (n, rest)) :
    TakesNumber cs rest := by
  unfold integer? at read
  dsimp only at read
  split at read <;> obtain ⟨ds, digits⟩ := digits_of_number read
  · exact takesNumber_marked (by decide) digits
  · exact takesNumber_marked (by decide) digits
  · exact takesNumber_marked (by decide) digits
  · exact takesNumber_wholeDigits? digits

theorem takesNumber_decimalFloat? {x : Float} (read : decimalFloat? cs = some (x, rest)) :
    TakesNumber cs rest := by
  unfold decimalFloat? at read
  obtain ⟨⟨whole, afterWhole⟩, digits, read⟩ := Option.bind_eq_some_iff.mp read
  obtain ⟨front, opens⟩ := takesNumber_wholeDigits? digits
  refine ⟨front.trans ?_, opens⟩
  dsimp only at read
  split at read
  · obtain ⟨⟨fraction, behind⟩, digits, read⟩ := Option.bind_eq_some_iff.mp read
    have point := SameLine.cons (by decide : '.' ≠ '\n') (digits?_some digits).1
    dsimp only at read
    split at read
    · rename_i exponent
      obtain ⟨_, found, read⟩ := Option.bind_eq_some_iff.mp read
      obtain ⟨_, _, same⟩ := Option.bind_eq_some_iff.mp read
      cases found
      cases same
      exact point.trans (sameLine_exponent? exponent)
    · obtain ⟨_, found, read⟩ := Option.bind_eq_some_iff.mp read
      obtain ⟨_, _, same⟩ := Option.bind_eq_some_iff.mp read
      cases found
      cases same
      exact point
  · obtain ⟨_, parts, read⟩ := Option.bind_eq_some_iff.mp read
    obtain ⟨⟨e, behind⟩, exponent, found⟩ := Option.map_eq_some_iff.mp parts
    obtain ⟨_, _, same⟩ := Option.bind_eq_some_iff.mp read
    cases found
    cases same
    exact sameLine_exponent? exponent

theorem takesNumber_word {c : Char} (word : List Char) (opens : opensNumber c = true)
    (inLine : '\n' ∉ c :: word) (behind : (sign cs).2 = c :: word ++ rest) : TakesNumber cs rest := by
  refine ⟨(sameLine_sign cs).trans ?_, opensNumber_of_sign ⟨c, word ++ rest, behind, opens⟩⟩
  rw [behind]
  exact sameLine_append inLine rest

theorem takesNumber_float? {x : Float} (read : float? cs = some (x, rest)) :
    TakesNumber cs rest := by
  unfold float? at read
  split at read
  · rename_i found
    cases read
    exact takesNumber_decimalFloat? found
  · split at read
    · rename_i signed
      cases read
      exact takesNumber_word ['n', 'f'] rfl (by decide) (congrArg Prod.snd signed)
    · rename_i signed
      cases read
      exact takesNumber_word ['a', 'n'] rfl (by decide) (congrArg Prod.snd signed)
    · cases read

end Numbers

/-! ### Dates -/

section Dates

variable {cs rest : List Char}

theorem char_isDigit_newline : Char.isDigit '\n' = false :=
  rfl

theorem exactly?_some {count n : Nat} (read : exactly? count cs = some (n, rest)) :
    SameLine cs rest ∧ (cs.take count).length = count ∧ (cs.take count).all Char.isDigit = true := by
  unfold exactly? at read
  dsimp only at read
  split at read
  · rename_i valid
    cases read
    rw [Bool.and_eq_true, beq_iff_eq] at valid
    refine ⟨.drop ?_, valid⟩
    intro member
    have digit := List.all_eq_true.mp valid.2 '\n' member
    rw [char_isDigit_newline] at digit
    cases digit
  · cases read

theorem sameLine_after? {c : Char} (other : c ≠ '\n') (read : after? c cs = some rest) :
    SameLine cs rest := by
  cases cs with
  | nil => cases read
  | cons d tail =>
      rw [after?] at read
      split at read
      · rename_i same
        cases read
        rw [beq_iff_eq] at same
        exact .cons (same ▸ other) (.refl _)
      · cases read

/-- A number of some digits begins with one of them. -/
theorem takesNumber_exactly? {count n : Nat} (read : exactly? (count + 1) cs = some (n, rest)) :
    TakesNumber cs rest := by
  obtain ⟨same, length, digits⟩ := exactly?_some read
  refine ⟨same, ?_⟩
  cases cs with
  | nil => cases length
  | cons c tail =>
      have digit : c.isDigit = true := by
        simp only [List.take_succ_cons, List.all_cons, Bool.and_eq_true] at digits
        exact digits.1
      exact ⟨c, tail, rfl, opensNumber_of_isDigit (Numeral.isDigit_ten.trans digit)⟩

theorem TakesNumber.trans {ds : List Char} (first : TakesNumber cs ds) (second : SameLine ds rest) :
    TakesNumber cs rest :=
  ⟨first.1.trans second, first.2⟩

theorem takesNumber_afterTime? (read : afterTime? cs = some rest) : TakesNumber cs rest := by
  unfold afterTime? at read
  obtain ⟨⟨hour, cs₁⟩, hours, read⟩ := Option.bind_eq_some_iff.mp read
  obtain ⟨cs₂, colon, read⟩ := Option.bind_eq_some_iff.mp read
  obtain ⟨⟨minute, cs₃⟩, minutes, read⟩ := Option.bind_eq_some_iff.mp read
  obtain ⟨cs₄, colon', read⟩ := Option.bind_eq_some_iff.mp read
  obtain ⟨⟨second, cs₅⟩, seconds, read⟩ := Option.bind_eq_some_iff.mp read
  obtain ⟨_, _, read⟩ := Option.bind_eq_some_iff.mp read
  have whole : TakesNumber cs cs₅ :=
    (((takesNumber_exactly? hours).trans (sameLine_after? (by decide) colon)).trans
      ((exactly?_some minutes).1.trans (sameLine_after? (by decide) colon'))).trans
      (exactly?_some seconds).1
  dsimp only at read whole
  split at read
  · split at read
    · cases read
      exact whole
    · cases read
      exact whole.trans (.cons (by decide) (.drop_takeWhile rfl _))
  · cases read
    exact whole

theorem sameLine_getD {found : Option (List Char)}
    (behind : ∀ rest, found = some rest → SameLine cs rest) : SameLine cs (found.getD cs) := by
  cases found with
  | none => exact .refl cs
  | some rest => exact behind rest rfl

theorem sameLine_afterOffset (cs : List Char) : SameLine cs (afterOffset cs) := by
  unfold afterOffset
  split
  · exact .cons (by decide) (.refl _)
  · exact .cons (by decide) (.refl _)
  · rename_i c tail _ _
    apply sameLine_getD
    intro rest found
    obtain ⟨_, mark, found⟩ := Option.bind_eq_some_iff.mp found
    obtain ⟨⟨hour, cs₁⟩, hours, found⟩ := Option.bind_eq_some_iff.mp found
    obtain ⟨cs₂, colon, found⟩ := Option.bind_eq_some_iff.mp found
    obtain ⟨⟨minute, cs₃⟩, minutes, found⟩ := Option.bind_eq_some_iff.mp found
    obtain ⟨_, _, same⟩ := Option.bind_eq_some_iff.mp found
    cases same
    have other : c ≠ '\n' := by
      rintro rfl
      cases mark
    exact .cons other ((exactly?_some hours).1.trans
      ((sameLine_after? (by decide) colon).trans (exactly?_some minutes).1))
  · exact .refl _

theorem takesNumber_afterDay? (read : afterDay? cs = some rest) : TakesNumber cs rest := by
  unfold afterDay? at read
  obtain ⟨⟨year, cs₁⟩, years, read⟩ := Option.bind_eq_some_iff.mp read
  obtain ⟨cs₂, dash, read⟩ := Option.bind_eq_some_iff.mp read
  obtain ⟨⟨month, cs₃⟩, months, read⟩ := Option.bind_eq_some_iff.mp read
  obtain ⟨cs₄, dash', read⟩ := Option.bind_eq_some_iff.mp read
  obtain ⟨⟨day, cs₅⟩, days, read⟩ := Option.bind_eq_some_iff.mp read
  obtain ⟨_, _, same⟩ := Option.bind_eq_some_iff.mp read
  cases same
  exact (((takesNumber_exactly? years).trans (sameLine_after? (by decide) dash)).trans
    ((exactly?_some months).1.trans (sameLine_after? (by decide) dash'))).trans
    (exactly?_some days).1

theorem takesNumber_afterDatetime? (read : afterDatetime? cs = some rest) :
    TakesNumber cs rest := by
  unfold afterDatetime? at read
  split at read
  · rename_i behind day
    have front := takesNumber_afterDay? day
    split at read
    · rename_i c time
      split at read
      · rename_i mark
        cases read
        have other : c ≠ '\n' := by
          rintro rfl
          cases mark
        cases found : afterTime? time with
        | none => exact front
        | some behind =>
            exact front.trans (.cons other ((takesNumber_afterTime? found).1.trans
              (sameLine_afterOffset behind)))
      · cases read
        exact front
    · cases read
      exact front
  · exact takesNumber_afterTime? read

end Dates

end TemplateCalc.Toml
