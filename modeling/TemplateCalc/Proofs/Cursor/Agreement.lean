import TemplateCalc.Proofs.Cursor.Reader
import TemplateCalc.Proofs.Scanning

/-!
Agreement of a position with what is left of a text.

A position stands where what is left of the text starts. From such a position the reader ends like the
scanner does with what is left: with the same token and behind the same characters, or with the same
fault and inside the text. It never ends outside.
-/

set_option autoImplicit false

namespace TemplateCalc.Cursor

structure Stands (source : List Char) (position : Nat) (cs : List Char) : Prop where
  inside : position ≤ source.length
  left : source.drop position = cs

inductive Agrees (source : List Char) : Outcome → Scan.Result → Prop where
  | token {token : Token} {position : Nat} {rest : List Char}
      (stands : Stands source position rest) :
      Agrees source (.token token position) (.ok (token, rest))
  | fault {fault : LexicalFault} {position : Nat} (inside : position ≤ source.length) :
      Agrees source (.fault fault position) (.error fault)

def Follows (source : List Char) (reader : Nat → Outcome) (scanner : List Char → Scan.Result) :
    Prop :=
  ∀ position cs, Stands source position cs → Agrees source (reader position) (scanner cs)

variable {source : List Char}

theorem Agrees.eq_token {outcome : Outcome} {token : Token} {rest : List Char}
    (agrees : Agrees source outcome (.ok (token, rest))) :
    ∃ position, outcome = .token token position ∧ Stands source position rest := by
  cases agrees with
  | token stands => exact ⟨_, rfl, stands⟩

theorem Agrees.eq_fault {outcome : Outcome} {fault : LexicalFault}
    (agrees : Agrees source outcome (.error fault)) :
    ∃ position, outcome = .fault fault position ∧ position ≤ source.length := by
  cases agrees with
  | fault inside => exact ⟨_, rfl, inside⟩

section Looking

variable {position : Nat} {c : Char} {cs rest : List Char}

theorem stands_drop (inside : position ≤ source.length) :
    Stands source position (source.drop position) :=
  ⟨inside, rfl⟩

theorem Stands.length (stands : Stands source position cs) :
    position + cs.length = source.length := by
  rw [← stands.left, List.length_drop]
  have inside := stands.inside
  omega

theorem Stands.getElem? (stands : Stands source position cs) (count : Nat) :
    source[position + count]? = cs[count]? := by
  rw [← stands.left, List.getElem?_drop]

theorem Stands.head? (stands : Stands source position cs) : source[position]? = cs.head? := by
  rw [← Nat.add_zero position, stands.getElem?, List.head?_eq_getElem?]

theorem Stands.drop (stands : Stands source position cs) {count : Nat} (short : count ≤ cs.length) :
    Stands source (position + count) (cs.drop count) := by
  have length := stands.length
  refine ⟨by omega, ?_⟩
  rw [← stands.left, List.drop_drop]

theorem Stands.tail (stands : Stands source position (c :: cs)) :
    Stands source (position + 1) cs :=
  stands.drop (Nat.succ_le_succ (Nat.zero_le cs.length))

theorem Stands.holds (stands : Stands source position cs) (test : Char → Bool) :
    holds source test position = Scan.startsWith test cs := by
  rw [Cursor.holds, stands.head?, Scan.startsWith]

theorem Stands.holds_add (stands : Stands source position cs) (test : Char → Bool) (count : Nat) :
    Cursor.holds source test (position + count) = Scan.startsWith test (cs.drop count) := by
  rw [Cursor.holds, stands.getElem?, Scan.startsWith, List.head?_drop]

theorem Stands.eq_cons (stands : Stands source position cs) (found : source[position]? = some c) :
    ∃ tail, cs = c :: tail := by
  rw [stands.head?] at found
  exact List.head?_eq_some_iff.mp found

theorem Stands.eq_nil (stands : Stands source position cs) (ended : source[position]? = none) :
    cs = [] := by
  rwa [stands.head?, List.head?_eq_none_iff] at ended

/-- The end of a text is the only position where nothing is left. -/
theorem Stands.eq_length (stands : Stands source position []) : position = source.length :=
  stands.length

/-- A part that starts and ends in the text is found, if it does not end before it starts. -/
theorem Stands.slice? {stop : Nat} (stands : Stands source position cs)
    (stands' : Stands source stop rest) (shorter : rest.length ≤ cs.length) :
    slice? source position stop = some (cs.take (cs.length - rest.length)) := by
  have length := stands.length
  have length' := stands'.length
  rw [Cursor.slice?, if_pos ⟨by omega, stands'.inside⟩, List.drop_take, stands.left]
  congr 2
  omega

theorem Stands.skip (stands : Stands source position cs) (test : Char → Bool) :
    Stands source (skip source test position) (cs.dropWhile test) := by
  induction cs generalizing position with
  | nil =>
      rw [Cursor.skip, dif_neg]
      · exact stands
      · rw [stands.holds]
        exact Bool.false_ne_true
  | cons c cs induction =>
      rw [Cursor.skip, List.dropWhile_cons]
      have first : Cursor.holds source test position = test c := stands.holds test
      rw [first]
      split
      · exact induction stands.tail
      · exact stands

end Looking

structure SamePart (source : List Char) (found : List Char × Nat) (read : List Char × List Char) :
    Prop where
  text : found.1 = read.1
  stands : Stands source found.2 read.2

section Names

variable {position : Nat} {cs : List Char}

theorem Stands.name (stands : Stands source position cs) :
    SamePart source (name source position) (Scan.name cs) := by
  fun_induction Cursor.name source position generalizing cs with
  | case1 position c found inside chars stop read induction =>
      obtain ⟨tail, rfl⟩ := stands.eq_cons found
      have others := induction stands.tail
      rw [read] at others
      rw [Scan.name]
      · rw [if_pos inside]
        exact ⟨congrArg (c :: ·) others.text, others.stands⟩
      · rintro d rest rfl _
        exact absurd inside (by decide)
  | case2 position c found outside joined chars stop read induction =>
      obtain ⟨tail, rfl⟩ := stands.eq_cons found
      rw [Bool.and_eq_true, Bool.and_eq_true, beq_iff_eq, stands.tail.holds,
        stands.holds_add] at joined
      obtain ⟨⟨rfl, second⟩, third⟩ := joined
      cases tail with
      | nil => cases second
      | cons e tail =>
          obtain rfl : e = ':' := eq_of_beq second
          cases tail with
          | nil => cases third
          | cons d rest =>
              have starts : Text.isNameStart d = true := third
              have others := induction stands.tail.tail
              rw [read] at others
              rw [Scan.name, if_pos starts]
              exact ⟨congrArg (':' :: ':' :: ·) others.text, others.stands⟩
  | case3 position c found outside apart =>
      obtain ⟨tail, rfl⟩ := stands.eq_cons found
      rw [stands.tail.holds, stands.holds_add] at apart
      have stays : Scan.name (c :: tail) = ([], c :: tail) := by
        -- the reader looks two characters ahead; the scanner has them in its pattern
        by_cases pair : ∃ d rest, c = ':' ∧ tail = ':' :: d :: rest
        · obtain ⟨d, rest, rfl, rfl⟩ := pair
          have noStart : ¬Text.isNameStart d = true := by
            simpa [Scan.startsWith] using apart
          rw [Scan.name, if_neg noStart]
        · rw [Scan.name]
          · rw [if_neg outside]
          · rintro d rest rfl rfl
            exact pair ⟨d, rest, rfl, rfl⟩
      rw [stays]
      exact ⟨rfl, stands⟩
  | case4 position ended =>
      obtain rfl := stands.eq_nil ended
      exact ⟨rfl, stands⟩

theorem take_two_eq (cs : List Char) :
    (cs.take 2 == [':', ':']) =
      (Scan.startsWith (· == ':') cs && Scan.startsWith (· == ':') (cs.drop 1)) := by
  cases cs with
  | nil => rfl
  | cons c cs =>
      cases cs with
      | nil => simp [Scan.startsWith]
      | cons d cs => simp [Scan.startsWith]

/-- The underscore is a digit in no radix. -/
theorem head?_ne_of_all_isDigit {radix : Nat} {word : List Char}
    (all : word.all (Numeral.isDigit radix) = true) : (word.head? == some '_') = false := by
  cases word with
  | nil => rfl
  | cons c word =>
      have digit : Numeral.isDigit radix c = true := List.all_eq_true.mp all c List.mem_cons_self
      rw [List.head?_cons, beq_eq_false_iff_ne]
      rintro ⟨⟩
      cases digit

theorem Stands.wordIsNumber? (stands : Stands source position cs) (radix : Nat) :
    wordIsNumber? source radix position = some (Scan.wordIsNumber radix cs) := by
  have last : Stands source source.length [] := ⟨Nat.le_refl _, List.drop_length⟩
  have tail := stands.slice? last (Nat.zero_le _)
  rw [List.length_nil, Nat.sub_zero, List.take_length] at tail
  rw [Cursor.wordIsNumber?, tail, Option.map_some, Scan.wordIsNumber, take_two_eq,
    ← Scan.drop_takeWhile]
  simp only [stands.holds_add, Nat.add_assoc, List.drop_drop]
  cases all : (cs.takeWhile Text.isNameChar).all (Numeral.isDigit radix) with
  | false => simp
  | true =>
      rw [head?_ne_of_all_isDigit all]
      split <;> simp_all

end Names

end TemplateCalc.Cursor
