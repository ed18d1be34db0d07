import TemplateCalc.Proofs.Toml.Drafts
import TemplateCalc.Proofs.Toml.SameLine
import TemplateCalc.Text.Blank

/-!
What a value passes on its way over several lines.

Readers count the lines that they pass. A value takes more than one line only as a string in triple
marks or as an array; in an array every line begins with a value or a mark. So where there are no
triple marks, no value passes a line that begins with the name of a field.
-/

set_option autoImplicit false

namespace TemplateCalc.Toml

/-! ### Positions -/

def Travels (c d : Cursor) : Prop :=
  ∃ passed, c.rest = passed ++ d.rest ∧ d.line = c.line + passed.count '\n'

def Cursor.Within (c : Cursor) (text : List Char) : Prop :=
  Travels ⟨text, 1⟩ c

section Travels

variable {c d e : Cursor} {rest text : List Char}

theorem Travels.refl (c : Cursor) : Travels c c :=
  ⟨[], rfl, rfl⟩

theorem Travels.trans (first : Travels c d) (second : Travels d e) : Travels c e := by
  obtain ⟨u, split, line⟩ := first
  obtain ⟨v, split', line'⟩ := second
  refine ⟨u ++ v, ?_, ?_⟩
  · rw [split, split', List.append_assoc]
  · rw [line', line, List.count_append, Nat.add_assoc]

theorem Travels.of_sameLine (same : SameLine c.rest rest) : Travels c ⟨rest, c.line⟩ := by
  obtain ⟨u, inLine, split⟩ := same
  refine ⟨u, split, ?_⟩
  rw [List.count_eq_zero_of_not_mem inLine]
  rfl

theorem Cursor.Within.travels (inside : c.Within text) (travels : Travels c d) : d.Within text :=
  Travels.trans inside travels

/-- A line ends behind blanks at most. -/
theorem lineBreak?_some {cs : List Char} (ends : lineBreak? cs = some rest) :
    ∃ blanks, (∀ b ∈ blanks, Text.isBlank b = true) ∧ '\n' ∉ blanks ∧ cs = blanks ++ '\n' :: rest := by
  revert ends
  fun_cases lineBreak? cs with
  | case1 tail =>
      intro ends
      cases ends
      exact ⟨[], nofun, List.not_mem_nil, rfl⟩
  | case2 tail =>
      intro ends
      cases ends
      exact ⟨['\r'], List.forall_mem_singleton.mpr rfl, by decide, rfl⟩
  | case3 => exact nofun

theorem Travels.of_lineBreak? (ends : lineBreak? c.rest = some rest) :
    Travels c ⟨rest, c.line + 1⟩ := by
  obtain ⟨blanks, _, inLine, split⟩ := lineBreak?_some ends
  refine ⟨blanks ++ ['\n'], ?_, ?_⟩
  · rw [split, List.append_assoc]
    rfl
  · rw [List.count_append, List.count_eq_zero_of_not_mem inLine]
    rfl

end Travels

/-! ### Strings in triple marks -/

section Multi

variable {mark : Char} {c : Cursor}

theorem travels_skipSpaceAndLines (line : Nat) (cs : List Char) :
    Travels ⟨cs, line⟩ (skipSpaceAndLines line cs) := by
  fun_induction skipSpaceAndLines line cs with
  | case1 line rest ih => exact (Travels.of_lineBreak? (c := ⟨'\n' :: rest, line⟩) rfl).trans ih
  | case2 line rest ih => exact (Travels.of_lineBreak? (c := ⟨'\r' :: '\n' :: rest, line⟩) rfl).trans ih
  | case3 line ch rest _ _ space ih =>
      have other : ch ≠ '\n' := by
        rintro rfl
        cases space
      exact (Travels.of_sameLine (c := ⟨ch :: rest, line⟩) (.cons other (.refl rest))).trans ih
  | case4 line ch rest _ _ _ => exact .refl _
  | case5 line => exact .refl _

theorem travels_multiTail {fuel : Nat} {chars : List Char} {d : Cursor} (isMark : mark ≠ '\n')
    (read : multiTail mark fuel c = .ok (chars, d)) : Travels c d := by
  induction fuel generalizing c chars with
  | zero => cases read
  | succ fuel ih =>
      obtain ⟨cs, line⟩ := c
      have isRow : (fun ch : Char => ch == mark) '\n' = false := beq_eq_false_iff_ne.mpr isMark.symm
      unfold multiTail at read
      dsimp only at read
      split at read
      · rename_i closes
        cases read
        -- up to two marks belong to the string, three close it
        have inside : min ((cs.takeWhile (· == mark)).length - 3) 2 + 3 ≤
            (cs.takeWhile (· == mark)).length := by omega
        exact Travels.of_sameLine (c := ⟨cs, line⟩) (.drop_of_le isRow inside)
      · split at read
        · obtain ⟨⟨more, behind⟩, onward, same⟩ := bind_eq_ok read
          cases same
          exact (Travels.of_sameLine (c := ⟨cs, line⟩) (.drop_takeWhile isRow cs)).trans (ih onward)
        · split at read
          · rename_i rest ends
            obtain ⟨⟨more, behind⟩, onward, same⟩ := bind_eq_ok read
            cases same
            exact (Travels.of_lineBreak? (c := ⟨_, line⟩) ends).trans (ih onward)
          · cases read
          · rename_i ch rest _ _ _
            split at read
            · rename_i backslash
              rw [Bool.and_eq_true, beq_iff_eq] at backslash
              have first := Travels.of_sameLine (c := ⟨ch :: rest, line⟩)
                (.cons (by rw [backslash.1]; decide) (.refl rest))
              split at read
              · exact first.trans ((travels_skipSpaceAndLines line rest).trans (ih read))
              · split at read
                · cases read
                · rename_i escaped behind found
                  obtain ⟨⟨more, behind⟩, onward, same⟩ := bind_eq_ok read
                  cases same
                  exact first.trans ((Travels.of_sameLine (c := ⟨rest, line⟩)
                    (sameLine_escape? found)).trans (ih onward))
            · split at read
              · rename_i visible
                obtain ⟨⟨more, behind⟩, onward, same⟩ := bind_eq_ok read
                cases same
                exact (Travels.of_sameLine (c := ⟨ch :: rest, line⟩)
                  (.cons (ne_newline_of_isVisible visible) (.refl rest))).trans (ih onward)
              · cases read

end Multi

def NoTriple (text : List Char) : Prop :=
  ∀ mark, mark = '"' ∨ mark = literalMark → ¬[mark, mark, mark] <:+: text

theorem NoTriple.of_append {passed rest : List Char} (none : NoTriple (passed ++ rest)) :
    NoTriple rest :=
  fun mark isMark inside => none mark isMark (inside.trans (List.suffix_append passed rest).isInfix)

/-- A string is on one line, or it begins with triple marks. -/
theorem string_ok {c d : Cursor} {s : String} (starts : startsString c.rest = true)
    (read : string c = .ok (s, d)) :
    (SameLine c.rest d.rest ∧ d.line = c.line) ∨ (Travels c d ∧ ¬NoTriple c.rest) := by
  obtain ⟨mark, tail, split, isMark⟩ := isMark_of_startsString starts
  unfold string at read
  dsimp only at read
  split at read
  · rename_i triple
    obtain ⟨⟨chars, behind⟩, onward, same⟩ := bind_eq_ok read
    cases same
    right
    -- a string that starts with three marks starts with three of the same kind
    have front : c.rest.take 3 = [mark, mark, mark] := by
      rw [Bool.or_eq_true, beq_iff_eq, beq_iff_eq] at triple
      rcases triple with triple | triple <;>
      · rw [split, List.take_succ_cons] at triple
        rw [split, List.take_succ_cons, triple]
        injection triple with first
        rw [first]
    have whole : c.rest = [mark, mark, mark] ++ c.rest.drop 3 := by
      rw [← front, List.take_append_drop]
    constructor
    · have other := isMark_ne_newline isMark
      have marks : '\n' ∉ [mark, mark, mark] := by
        simpa using other.symm
      have opening : Travels c ⟨c.rest.drop 3, c.line⟩ := .of_sameLine ⟨_, marks, whole⟩
      rw [split, List.headD_cons] at onward
      rw [← split] at onward
      have inside := travels_multiTail other onward
      split at inside
      · rename_i rest ends
        exact (opening.trans (.of_lineBreak? ends)).trans inside
      · exact opening.trans inside
    · intro none
      exact none mark isMark (whole ▸ (List.prefix_append _ _).isInfix)
  · rw [split] at read
    obtain ⟨⟨chars, behind⟩, onward, same⟩ := bind_eq_ok read
    cases same
    left
    rw [split]
    exact ⟨.cons (isMark_ne_newline isMark) (sameLine_stringTail (isMark_ne_newline isMark) onward), rfl⟩

/-! ### Lines that begin with a word -/

def opensValue (c : Char) : Bool :=
  opensNumber c || c == '"' || c == literalMark || c == '[' || c == '\x7b' || c == 't' || c == 'f'

/-- A word that stands as a key without marks and that is no beginning of a value. -/
structure IsWord (word : List Char) : Prop where
  keyChars : ∀ c ∈ word, isKeyChar c = true
  opens : ∃ c more, word = c :: more ∧ opensValue c = false

def Begins (word text : List Char) : Prop :=
  word <+: Text.skipBlanks (text.takeWhile (· != '\n'))

section Begins

variable {word rest blanks : List Char} {c : Char}

theorem begins_append (areBlank : ∀ b ∈ blanks, Text.isBlank b = true) (inLine : '\n' ∉ blanks)
    (rest : List Char) : Begins word (blanks ++ rest) ↔ Begins word rest := by
  have whole : (blanks ++ rest).takeWhile (· != '\n') = blanks ++ rest.takeWhile (· != '\n') :=
    List.takeWhile_append_of_pos fun b member => by
      rw [bne_iff_ne]
      rintro rfl
      exact inLine member
  unfold Begins Text.skipBlanks
  rw [whole, List.dropWhile_append_of_pos areBlank]

theorem begins_skipSpaces (cs : List Char) : Begins word (skipSpaces cs) ↔ Begins word cs := by
  have split : cs = cs.takeWhile isSpace ++ skipSpaces cs := List.takeWhile_append_dropWhile.symm
  have areBlank (b : Char) (member : b ∈ cs.takeWhile isSpace) : Text.isBlank b = true := by
    have space := List.all_eq_true.mp List.all_takeWhile b member
    simp only [isSpace, Bool.or_eq_true, beq_iff_eq] at space
    rcases space with rfl | rfl <;> rfl
  conv => rhs; rw [split]
  exact (begins_append areBlank (SameLine.notMem_takeWhile rfl cs) (skipSpaces cs)).symm

/-- What begins with a character of no word begins with no word. -/
theorem not_begins_cons (isWord : IsWord word) (solid : Text.isBlank c = false)
    (other : isKeyChar c = false ∨ opensValue c = true) : ¬Begins word (c :: rest) := by
  intro begins
  obtain ⟨first, more, rfl, closed⟩ := isWord.opens
  have inLine : (c != '\n') = true := by
    rw [bne_iff_ne]
    rintro rfl
    cases solid
  have line : (c :: rest).takeWhile (· != '\n') = c :: rest.takeWhile (· != '\n') :=
    List.takeWhile_cons_of_pos inLine
  unfold Begins Text.skipBlanks at begins
  rw [line, List.dropWhile_cons_of_neg (by simp [solid])] at begins
  obtain ⟨rfl, _⟩ := List.cons_prefix_cons.mp begins
  rcases other with noKey | opens
  · rw [isWord.keyChars first List.mem_cons_self] at noKey
    cases noKey
  · rw [closed] at opens
    cases opens

theorem solid_of_opensValue (opens : opensValue c = true) : Text.isBlank c = false := by
  by_cases digit : Numeral.isDigit 10 c = true
  · rw [Numeral.isDigit_ten] at digit
    exact Calendar.isBlank_digit digit
  · simp only [opensValue, opensNumber, digit, Bool.or_eq_true, beq_iff_eq, or_assoc, false_or,
      Bool.false_eq_true] at opens
    rcases opens with rfl | rfl | rfl | rfl | rfl | rfl | rfl | rfl | rfl | rfl
    all_goals rfl

theorem not_begins_of_opensValue (isWord : IsWord word) (opens : opensValue c = true) :
    ¬Begins word (c :: rest) :=
  not_begins_cons isWord (solid_of_opensValue opens) (.inr opens)

theorem not_begins_newline (isWord : IsWord word) : ¬Begins word ('\n' :: rest) := by
  intro begins
  obtain ⟨first, more, rfl, _⟩ := isWord.opens
  exact List.cons_ne_nil _ _ (List.prefix_nil.mp begins)

theorem not_begins_nil (isWord : IsWord word) : ¬Begins word [] := by
  intro begins
  obtain ⟨first, more, rfl, _⟩ := isWord.opens
  exact List.cons_ne_nil _ _ (List.prefix_nil.mp begins)

theorem not_begins_of_lineBreak? {cs : List Char} (isWord : IsWord word)
    (ends : lineBreak? cs = some rest) : ¬Begins word cs := by
  obtain ⟨blanks, areBlank, inLine, rfl⟩ := lineBreak?_some ends
  rw [begins_append areBlank inLine]
  exact not_begins_newline isWord

end Begins

/-! ### Passing lines -/

/-- The way from one cursor to another passes no line that begins with a word, if there are no triple
marks. The lines in question are those behind the line ends that are passed. -/
def Passes (word : List Char) (c d : Cursor) : Prop :=
  ∃ passed, c.rest = passed ++ d.rest ∧ d.line = c.line + passed.count '\n' ∧
    (NoTriple c.rest → ∀ before behind, passed = before ++ '\n' :: behind →
      ¬Begins word (behind ++ d.rest))

/-- A line end in a text of two parts is in the first part or in the second one. -/
theorem newline_split {before behind first second : List Char}
    (split : before ++ '\n' :: behind = first ++ second) :
    (∃ more, first = before ++ '\n' :: more ∧ behind = more ++ second) ∨
      ∃ more, before = first ++ more ∧ second = more ++ '\n' :: behind := by
  rcases List.append_eq_append_iff.mp split with ⟨more, rfl, same⟩ | ⟨more, rfl, same⟩
  · cases more with
    | nil => exact .inr ⟨[], by rw [List.append_nil, List.append_nil], same.symm⟩
    | cons c more =>
        injection same with head tail
        subst head
        exact .inl ⟨more, rfl, tail⟩
  · exact .inr ⟨more, rfl, same⟩

section Passes

variable {word rest : List Char} {c d e : Cursor}

theorem Passes.travels (passes : Passes word c d) : Travels c d := by
  obtain ⟨passed, split, line, _⟩ := passes
  exact ⟨passed, split, line⟩

theorem Passes.refl (word : List Char) (c : Cursor) : Passes word c c :=
  ⟨[], rfl, rfl, fun _ before behind split => by simp at split⟩

theorem Passes.trans (first : Passes word c d) (second : Passes word d e) : Passes word c e := by
  obtain ⟨u, split, line, none⟩ := first
  obtain ⟨v, split', line', none'⟩ := second
  refine ⟨u ++ v, ?_, ?_, ?_⟩
  · rw [split, split', List.append_assoc]
  · rw [line', line, List.count_append, Nat.add_assoc]
  · intro single before behind whole
    rcases newline_split whole.symm with ⟨more, rfl, rfl⟩ | ⟨more, _, rfl⟩
    · rw [List.append_assoc, ← split']
      exact none single before more rfl
    · rw [split] at single
      exact none' single.of_append more behind rfl

theorem Passes.of_sameLine (same : SameLine c.rest rest) : Passes word c ⟨rest, c.line⟩ := by
  obtain ⟨u, inLine, split⟩ := same
  refine ⟨u, split, ?_, ?_⟩
  · rw [List.count_eq_zero_of_not_mem inLine]
    rfl
  · rintro _ before behind rfl
    exact absurd (List.mem_append_right _ List.mem_cons_self) inLine

theorem Passes.skipSpaces (word : List Char) (c : Cursor) :
    Passes word c ⟨skipSpaces c.rest, c.line⟩ :=
  .of_sameLine (sameLine_skipSpaces c.rest)

theorem Passes.of_triple (travels : Travels c d) (triple : ¬NoTriple c.rest) : Passes word c d := by
  obtain ⟨passed, split, line⟩ := travels
  exact ⟨passed, split, line, fun single => absurd single triple⟩

theorem Passes.of_lineBreak? (ends : lineBreak? c.rest = some rest) (next : ¬Begins word rest) :
    Passes word c ⟨rest, c.line + 1⟩ := by
  obtain ⟨blanks, _, inLine, split⟩ := lineBreak?_some ends
  refine ⟨blanks ++ ['\n'], ?_, ?_, ?_⟩
  · rw [split, List.append_assoc]
    rfl
  · rw [List.count_append, List.count_eq_zero_of_not_mem inLine]
    rfl
  · intro _ before behind whole
    rcases newline_split whole.symm with ⟨more, rfl, _⟩ | ⟨more, _, same⟩
    · exact absurd (List.mem_append_right _ List.mem_cons_self) inLine
    · cases more with
      | nil =>
          injection same with _ same
          rw [← same]
          exact next
      | cons _ more =>
          injection same with _ same
          exact absurd same (by simp)

/-! ### Empty lines and comments -/

theorem not_begins_comment (isWord : IsWord word) : ¬Begins word ('#' :: rest) :=
  not_begins_cons isWord rfl (.inl rfl)

/-- Neither an empty line nor a comment begins with a word. -/
theorem not_begins_skipComment {cs : List Char} (isWord : IsWord word)
    (ends : lineBreak? (skipComment (Toml.skipSpaces cs)) = some rest) : ¬Begins word cs := by
  rw [← begins_skipSpaces]
  revert ends
  fun_cases skipComment (Toml.skipSpaces cs) with
  | case1 tail => exact fun _ => not_begins_comment isWord
  | case2 => exact fun ends => not_begins_of_lineBreak? isWord ends

/-- The lines that are skipped do not begin with a word unless the one behind them does. -/
theorem skipLinesWithin_passes (isWord : IsWord word) {fuel : Nat}
    (skipped : skipLinesWithin fuel c = .ok d) (next : ¬Begins word d.rest) :
    ¬Begins word c.rest ∧ Passes word c d := by
  induction fuel generalizing c with
  | zero => cases skipped
  | succ fuel ih =>
      unfold skipLinesWithin at skipped
      dsimp only at skipped
      split at skipped
      · rename_i rest ends
        obtain ⟨notNext, onward⟩ := ih skipped
        refine ⟨not_begins_skipComment isWord ends, ?_⟩
        have front : SameLine c.rest (skipComment (Toml.skipSpaces c.rest)) :=
          (sameLine_skipSpaces c.rest).trans (sameLine_skipComment _)
        exact ((Passes.of_sameLine front).trans (.of_lineBreak? ends notNext)).trans onward
      · cases skipped
      · cases skipped
      · cases skipped
        rw [begins_skipSpaces] at next
        exact ⟨next, .skipSpaces word c⟩

theorem skipLines_passes (isWord : IsWord word) (skipped : skipLines c = .ok d)
    (next : ¬Begins word d.rest) : Passes word c d :=
  (skipLinesWithin_passes isWord skipped next).2

end Passes

end TemplateCalc.Toml
