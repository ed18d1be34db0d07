import TemplateCalc.Proofs.Toml.Values

/-!
The lines of a document and its keys.

Every statement is on lines of its own. Without triple marks, a line of a document that begins with a
word is the first line of an assignment, so the key with this word is held by the document, and held
with this line. Main statement: `document_lines`.
-/

set_option autoImplicit false

namespace TemplateCalc.Toml

/-! ### Lines -/

def LineAt (c : Cursor) (line : Nat) (rest : List Char) : Prop :=
  ∃ passed, c.rest = passed ++ rest ∧ (passed = [] ∨ ∃ before, passed = before ++ ['\n']) ∧
    line = c.line + passed.count '\n'

def LineDone (word : List Char) (c d : Cursor) : Prop :=
  ∃ e, Passes word c e ∧
    (lineBreak? e.rest = some d.rest ∧ d.line = e.line + 1 ∨ e.rest = [] ∧ d = ⟨[], e.line⟩)

section Lines

variable {word rest : List Char} {c d e : Cursor} {line : Nat}

theorem LineDone.travels (done : LineDone word c d) : Travels c d := by
  obtain ⟨e, passes, ⟨ends, line⟩ | ⟨empty, rfl⟩⟩ := done
  · have last := Travels.of_lineBreak? ends
    rw [← line] at last
    exact passes.travels.trans last
  · refine passes.travels.trans ⟨[], ?_, rfl⟩
    rw [empty]
    rfl

theorem LineDone.behind (passes : Passes word c d) (done : LineDone word d e) : LineDone word c e := by
  obtain ⟨e', onward, ends⟩ := done
  exact ⟨e', passes.trans onward, ends⟩

/-- A line that begins with a word is the one at hand or one behind the line that is done. -/
theorem LineDone.lineAt (done : LineDone word c d) (single : NoTriple c.rest)
    (there : LineAt c line rest) (begins : Begins word rest) :
    (rest = c.rest ∧ line = c.line) ∨ LineAt d line rest := by
  obtain ⟨passed, split, start | ⟨before, rfl⟩, count⟩ := there
  · subst start
    exact .inl ⟨split.symm, count⟩
  · obtain ⟨e, ⟨between, way, steps, none⟩, arrived⟩ := done
    have whole : before ++ '\n' :: rest = between ++ e.rest := by
      rw [← way, split, List.append_assoc]
      rfl
    -- no line begins with the word up to where the cursor arrived, so this one is behind
    rcases newline_split whole with ⟨more, rfl, rfl⟩ | ⟨more, rfl, last⟩
    · exact absurd begins (none single before more rfl)
    · right
      rcases arrived with ⟨ends, next⟩ | ⟨empty, _⟩
      · obtain ⟨blanks, _, inLine, same⟩ := lineBreak?_some ends
        rw [last] at same
        rcases newline_split same with ⟨_, rfl, _⟩ | ⟨tail, rfl, cut⟩
        · exact absurd (List.mem_append_right _ List.mem_cons_self) inLine
        · simp only [List.count_append, List.count_eq_zero_of_not_mem inLine] at count
          cases tail with
          | nil =>
              injection cut with _ cut
              refine ⟨[], cut, .inl rfl, ?_⟩
              rw [next, steps, count]
              simp
              omega
          | cons _ tail =>
              injection cut with head cut
              subst head
              refine ⟨tail ++ ['\n'], ?_, .inr ⟨tail, rfl⟩, ?_⟩
              · rw [cut, List.append_assoc]
                rfl
              · rw [next, steps, count, List.count_append, List.count_cons_self]
                omega
      · rw [empty] at last
        exact absurd last.symm (by simp)

theorem lineEnd_ok (read : lineEnd c = .ok d) : LineDone word c d := by
  have front : Passes word c ⟨skipComment (skipSpaces c.rest), c.line⟩ :=
    .of_sameLine ((sameLine_skipSpaces c.rest).trans (sameLine_skipComment _))
  refine ⟨_, front, ?_⟩
  unfold lineEnd at read
  dsimp only at read
  split at read
  · rename_i ends
    cases read
    exact .inl ⟨ends, rfl⟩
  · rename_i empty
    cases read
    exact .inr ⟨empty, rfl⟩
  · cases read

end Lines

/-! ### Keys at the beginning of a line -/

section Keys

variable {word : List Char} {c d : Cursor}

theorem not_isBlank_of_isKeyChar {ch : Char} (keyChar : isKeyChar ch = true) :
    Text.isBlank ch = false := by
  rw [isKeyChar, Bool.or_eq_true, Bool.or_eq_true, beq_iff_eq, beq_iff_eq] at keyChar
  rcases keyChar with (alphanumeric | rfl) | rfl
  · -- All of them lie above the blanks of ASCII and below the other blanks.
    have bounds : 48 ≤ ch.toNat ∧ ch.toNat ≤ 122 := by
      rcases Scan.isAlphanum_iff.mp alphanumeric with letter | digit
      · have bounds := Scan.isAlpha_iff.mp letter
        omega
      · have bounds := Scan.isDigit_iff.mp digit
        omega
    simp only [Text.isBlank, Bool.or_eq_false_iff, Bool.and_eq_false_iff, decide_eq_false_iff_not,
      beq_eq_false_iff_ne]
    omega
  · rfl
  · rfl

/-- A key without marks begins with the word that its line begins with. -/
theorem prefix_of_begins {part : String} {rest : List Char} {line : Nat} {cs : List Char}
    (isWord : IsWord word) (begins : Begins word cs)
    (read : keyPart line (skipSpaces cs) = .ok (some (part, rest))) : word <+: part.toList := by
  rw [← begins_skipSpaces] at begins
  rcases keyPart_cases read with ⟨starts, _⟩ | ⟨⟨ch, tail, split, keyChar⟩, rfl, _⟩
  · obtain ⟨mark, tail, split, isMark⟩ := isMark_of_startsString starts
    have opens : opensValue mark = true := by
      rcases isMark with rfl | rfl <;> rfl
    rw [split] at begins
    exact absurd begins (not_begins_of_opensValue isWord opens)
  · rw [split] at begins ⊢
    have inLine : (ch != '\n') = true := by
      rw [bne_iff_ne]
      rintro rfl
      cases keyChar
    have solid : Text.skipBlanks ((ch :: tail).takeWhile (· != '\n')) =
        (ch :: tail).takeWhile (· != '\n') := by
      have line : (ch :: tail).takeWhile (· != '\n') = ch :: tail.takeWhile (· != '\n') :=
        List.takeWhile_cons_of_pos inLine
      rw [line]
      exact List.dropWhile_cons_of_neg (by simp [not_isBlank_of_isKeyChar keyChar])
    unfold Begins at begins
    rw [solid] at begins
    obtain ⟨more, same⟩ := begins.trans (List.takeWhile_prefix _)
    rw [← same, List.takeWhile_append_of_pos isWord.keyChars, String.toList_ofList]
    exact List.prefix_append word _

end Keys

/-! ### Statements -/

section Statements

variable {word text : List Char} {c c' : Cursor} {d d' : Draft} {path : List Key}

theorem header_ok {inArray : Bool} (bracket : ∃ tail, c.rest = '[' :: tail)
    (read : header c = .ok (path, inArray, c')) :
    LineDone word c c' ∧ (c.Within text → ∀ key ∈ path, Written text key) := by
  obtain ⟨tail, split⟩ := bracket
  -- one bracket opens the header of a table, two open that of a row
  have opening : SameLine c.rest (c.rest.drop (if c.rest.take 2 == ['[', '['] then 2 else 1)) := by
    by_cases double : c.rest.take 2 = ['[', '[']
    · rw [if_pos (beq_iff_eq.mpr double)]
      apply SameLine.drop
      rw [double]
      decide
    · rw [if_neg (by simpa using double), split]
      exact .cons (by decide) (.refl tail)
  have start : Passes word c _ := .of_sameLine opening
  unfold header at read
  dsimp only at read
  obtain ⟨found, key, read⟩ := bind_eq_ok read
  have keys (path' : List Key) (rest : List Char) (same : found = some (path', rest)) :
      Passes word c ⟨rest, c.line⟩ ∧ (c.Within text → ∀ key ∈ path', Written text key) := by
    subst same
    exact ⟨start.trans (.of_sameLine (keyPath_ok key).1),
      fun inside => written_of_keyPath (inside.travels start.travels) key⟩
  split at read
  · obtain ⟨behind, ends, same⟩ := bind_eq_ok read
    cases same
    obtain ⟨passes, written⟩ := keys _ _ rfl
    have closing (rest : List Char) : Passes word ⟨']' :: ']' :: rest, c.line⟩ ⟨rest, c.line⟩ :=
      .of_sameLine (.cons (by decide) (.cons (by decide) (.refl rest)))
    exact ⟨(lineEnd_ok ends).behind (passes.trans (closing _)), written⟩
  · obtain ⟨behind, ends, same⟩ := bind_eq_ok read
    cases same
    obtain ⟨passes, written⟩ := keys _ _ rfl
    exact ⟨(lineEnd_ok ends).behind (passes.trans (passes_cons rfl (by decide))), written⟩
  · cases read

structure AssignmentRead (word text : List Char) (c : Cursor) (path : List Key) (node : Node)
    (c' : Cursor) : Prop where
  done : LineDone word c c'
  keys : c.Within text → ∀ key ∈ path, Written text key
  isValue : node.IsValue
  sound : c.Within text → node.Sound (Written text)
  lines : ∀ key ∈ path, key.line = c.line
  first : ∃ first more, path = first :: more ∧ (Begins word c.rest → word <+: first.name.toList)

theorem assignment_ok (isWord : IsWord word) {node : Node}
    (read : assignment c = .ok (path, node, c')) : AssignmentRead word text c path node c' := by
  unfold assignment at read
  obtain ⟨found, key, read⟩ := bind_eq_ok read
  split at read
  · rename_i path' rest
    obtain ⟨⟨node', behind⟩, value, read⟩ := bind_eq_ok read
    obtain ⟨behind', ends, same⟩ := bind_eq_ok read
    cases same
    obtain ⟨sameLine, parts, first, more, rest', split, part⟩ := keyPath_ok key
    have toValue : Passes word c ⟨skipSpaces rest, c.line⟩ :=
      .of_sameLine ((sameLine.trans (.cons (by decide) (.refl rest))).trans (sameLine_skipSpaces rest))
    have valueRead := (reads isWord text _).value value
    exact {
      done := (lineEnd_ok ends).behind (toValue.trans valueRead.passes)
      keys := fun inside => written_of_keyPath inside key
      isValue := valueRead.isValue
      sound := fun inside => valueRead.sound (inside.travels toValue.travels)
      lines := fun key' member => (parts key' member).1
      first := ⟨first, more, split, fun begins => prefix_of_begins isWord begins part⟩ }
  · cases read

/-- A key at the end of a path that is due to a line with a word: it has the word and the line, or
the word stands in the path. -/
def DueTo (word : List Char) (line : Nat) (key : Key) (path : List String) : Prop :=
  (word <+: key.name.toList ∧ key.line = line) ∨ ∃ name ∈ path, word <+: name.toList

structure Step (word text : List Char) (d : Draft) (c : Cursor) (d' : Draft) (c' : Cursor) : Prop where
  done : LineDone word c c'
  sound : c.Within text → d.Sound (Written text) → d'.Sound (Written text)
  kept : (d.path = [] → d.root = []) → ∀ {key node path}, node.IsValue → d.Holds key node path →
    d'.Holds key node path
  held : Begins word c.rest → ∃ key node path, node.IsValue ∧ d'.Holds key node path ∧
    DueTo word c.line key path

theorem step_empty (done : LineDone word c c') (other : ¬Begins word c.rest) :
    Step word text d c d c' where
  done := done
  sound _ sound := sound
  kept _ _ _ _ _ holds := holds
  held begins := absurd begins other

theorem step_header (isWord : IsWord word) {inArray : Bool} {line : Nat}
    (bracket : ∃ tail, c.rest = '[' :: tail) (read : header c = .ok (path, inArray, c'))
    (started : d.start path line inArray = some d') : Step word text d c d' c' := by
  obtain ⟨done, keys⟩ : LineDone word c c' ∧ (c.Within text → ∀ key ∈ path, Written text key) :=
    header_ok bracket read
  exact {
    done := done
    sound := fun inside sound => sound.start (keys inside) started
    kept := fun fresh _ _ _ value holds => holds.start value fresh started
    held := by
      obtain ⟨tail, split⟩ := bracket
      rw [split]
      exact fun begins => absurd begins (not_begins_of_opensValue isWord rfl) }

theorem step_assignment (isWord : IsWord word) {node : Node}
    (read : assignment c = .ok (path, node, c')) (added : d.add path node = some d') :
    Step word text d c d' c' := by
  have known : AssignmentRead word text c path node c' := assignment_ok isWord read
  exact {
    done := known.done
    sound := fun inside sound => sound.add (known.keys inside) (known.sound inside) added
    kept := fun _ _ _ _ value holds => holds.add value added
    held := by
      intro begins
      obtain ⟨front, key, split, holds⟩ := Draft.add_holds added
      obtain ⟨first, more, split', starts⟩ := known.first
      refine ⟨key, node, _, known.isValue, holds, ?_⟩
      have line : key.line = c.line := by
        apply known.lines
        rw [split]
        exact List.mem_append_right _ (List.mem_singleton_self key)
      -- The first part of the key is its last one, or it is a name on the way.
      rw [split] at split'
      cases front with
      | nil =>
          injection split' with same _
          subst same
          exact .inl ⟨starts begins, line⟩
      | cons key' front =>
          injection split' with same _
          subst same
          exact .inr ⟨key'.name, List.mem_append_right _ List.mem_cons_self, starts begins⟩ }

theorem Step.behind_spaces (step : Step word text d ⟨skipSpaces c.rest, c.line⟩ d' c') :
    Step word text d c d' c' where
  done := step.done.behind (.skipSpaces word c)
  sound inside := step.sound (inside.travels (Passes.skipSpaces word c).travels)
  kept := step.kept
  held begins := step.held ((begins_skipSpaces c.rest).mpr begins)

/-- A document goes on with a statement, or it is at its end. -/
theorem statements_succ (isWord : IsWord word) (text : List Char) {fuel : Nat}
    (read : statements (fuel + 1) d c = .ok d') :
    (skipSpaces c.rest = [] ∧ d' = d) ∨
      ∃ d₁ c₁, Step word text d c d₁ c₁ ∧ statements fuel d₁ c₁ = .ok d' := by
  unfold statements at read
  dsimp only at read
  -- an empty line, the end, a comment, a header, or an assignment
  split at read
  · rename_i rest ends
    refine .inr ⟨d, _, Step.behind_spaces (step_empty ?_ ?_), read⟩
    · exact ⟨_, .refl word _, .inl ⟨ends, rfl⟩⟩
    · exact not_begins_of_lineBreak? isWord ends
  · rename_i empty
    cases read
    exact .inl ⟨empty, rfl⟩
  · rename_i rest _ comment
    obtain ⟨behind, ends, read⟩ := bind_eq_ok read
    refine .inr ⟨d, behind, Step.behind_spaces (step_empty (lineEnd_ok ends) ?_), read⟩
    dsimp only
    rw [comment]
    exact not_begins_comment isWord
  · rename_i rest _ bracket
    obtain ⟨⟨path, inArray, behind⟩, found, read⟩ := bind_eq_ok read
    dsimp only at read
    split at read
    · rename_i d₁ started
      exact .inr ⟨d₁, behind, (step_header isWord ⟨rest, bracket⟩ found started).behind_spaces, read⟩
    · cases read
  · obtain ⟨⟨path, node, behind⟩, found, read⟩ := bind_eq_ok read
    dsimp only at read
    split at read
    · rename_i d₁ added
      exact .inr ⟨d₁, behind, (step_assignment isWord found added).behind_spaces, read⟩
    · cases read

structure Run (word text : List Char) (d : Draft) (c : Cursor) (d' : Draft) : Prop where
  sound : d'.Sound (Written text)
  kept : ∀ {key node path}, node.IsValue → d.Holds key node path → d'.Holds key node path
  held : NoTriple c.rest → ∀ {line rest}, LineAt c line rest → Begins word rest →
    ∃ key node path, node.IsValue ∧ d'.Holds key node path ∧ DueTo word line key path

theorem Travels.noTriple {c d : Cursor} (travels : Travels c d) (single : NoTriple c.rest) :
    NoTriple d.rest := by
  obtain ⟨passed, split, _⟩ := travels
  rw [split] at single
  exact single.of_append

theorem run_end (isWord : IsWord word) (sound : d.Sound (Written text))
    (empty : skipSpaces c.rest = []) : Run word text d c d where
  sound := sound
  kept _ holds := holds
  held single line rest there begins := by
    have done : LineDone word c ⟨[], c.line⟩ :=
      ⟨_, .skipSpaces word c, .inr ⟨empty, rfl⟩⟩
    rcases done.lineAt single there begins with ⟨rfl, _⟩ | ⟨passed, split, _⟩
    · rw [← begins_skipSpaces, empty] at begins
      exact absurd begins (not_begins_nil isWord)
    · obtain ⟨_, rfl⟩ := List.append_eq_nil_iff.mp split.symm
      exact absurd begins (not_begins_nil isWord)

theorem run_statements (isWord : IsWord word) {fuel : Nat} (inside : c.Within text)
    (sound : d.Sound (Written text)) (read : statements fuel d c = .ok d') :
    Run word text d c d' := by
  induction fuel generalizing d c with
  | zero => cases read
  | succ fuel ih =>
      rcases statements_succ isWord text read with ⟨empty, rfl⟩ | ⟨d₁, c₁, step, read⟩
      · exact run_end isWord sound empty
      · have travels := step.done.travels
        have onward := ih (inside.travels travels) (step.sound inside sound) read
        refine ⟨onward.sound, ?_, ?_⟩
        · intro key node path value holds
          exact onward.kept value (step.kept sound.fresh value holds)
        · intro single line rest there begins
          rcases step.done.lineAt single there begins with ⟨rfl, rfl⟩ | there
          · obtain ⟨key, node, path, value, holds, due⟩ := step.held begins
            exact ⟨key, node, path, value, onward.kept value holds, due⟩
          · exact onward.held (travels.noTriple single) there begins

end Statements

/-! ### Documents -/

section Documents

variable {source : String} {entries : Entries}

/-- A document is read behind a mark for the byte order at most. -/
theorem document_ok (read : document source = .ok entries) :
    ∃ mark cs fuel d, source.toList = mark ++ cs ∧ (∀ c ∈ mark, c.toNat = 0xFEFF) ∧
      statements fuel {} ⟨cs, 1⟩ = .ok d ∧ d.finish = some entries := by
  unfold document at read
  dsimp only at read
  split at read
  · cases read
  · rename_i d found
    have finish : d.finish = some entries := by
      cases result : d.finish with
      | none =>
          rw [result] at read
          cases read
      | some entries' =>
          rw [result] at read
          injection read with same
          rw [same]
    -- a mark for the byte order can only be the first character
    cases split : source.toList with
    | nil =>
        rw [split] at found
        exact ⟨[], [], _, d, rfl, nofun, found, finish⟩
    | cons c rest =>
        rw [split] at found
        dsimp only at found
        by_cases isMark : c.toNat = 0xFEFF
        · rw [if_pos isMark] at found
          exact ⟨[c], rest, _, d, rfl, by simpa using isMark, found, finish⟩
        · rw [if_neg isMark] at found
          exact ⟨[], c :: rest, _, d, rfl, nofun, found, finish⟩

theorem begins_mark {word mark cs : List Char} (isWord : IsWord word)
    (marks : ∀ c ∈ mark, c.toNat = 0xFEFF) (begins : Begins word (mark ++ cs)) : mark = [] := by
  cases mark with
  | nil => rfl
  | cons c mark =>
      have same : c = Char.ofNat 0xFEFF := by
        rw [← Char.ofNat_toNat c, marks c List.mem_cons_self]
      subst same
      exact absurd begins (not_begins_cons isWord rfl (.inl rfl))

/-- A line that begins with a word is behind the mark for the byte order. -/
theorem lineAt_behind_mark {word mark cs rest : List Char} {line : Nat} (isWord : IsWord word)
    (marks : ∀ c ∈ mark, c.toNat = 0xFEFF) (there : LineAt ⟨mark ++ cs, 1⟩ line rest)
    (begins : Begins word rest) : LineAt ⟨cs, 1⟩ line rest := by
  have inLine : '\n' ∉ mark := fun member => absurd (marks '\n' member) (by decide)
  obtain ⟨passed, split, start | ⟨before, rfl⟩, count⟩ := there
  · subst start
    dsimp only [List.nil_append] at split
    subst split
    obtain rfl := begins_mark isWord marks begins
    exact ⟨[], rfl, .inl rfl, count⟩
  · dsimp only at split
    have whole : before ++ '\n' :: rest = mark ++ cs := by
      rw [split, List.append_assoc]
      rfl
    rcases newline_split whole with ⟨more, rfl, _⟩ | ⟨more, rfl, behind⟩
    · exact absurd (List.mem_append_right _ List.mem_cons_self) inLine
    · refine ⟨more ++ ['\n'], ?_, .inr ⟨more, rfl⟩, ?_⟩
      · rw [behind, List.append_assoc]
        rfl
      · rw [count, List.append_assoc, List.count_append, List.count_eq_zero_of_not_mem inLine,
          Nat.zero_add]

/-- The names in a table of a document are distinct, and each key is written on its line. Without
triple marks, what begins a line is held with this line. -/
theorem document_lines {word : List Char} (isWord : IsWord word)
    (read : document source = .ok entries) :
    entries.Sound (Written source.toList) ∧
      (NoTriple source.toList → ∀ line rest, LineAt ⟨source.toList, 1⟩ line rest → Begins word rest →
        ∃ key node path, node.IsValue ∧ entries.Holds key node path ∧ DueTo word line key path) := by
  obtain ⟨mark, cs, fuel, d, split, marks, found, finish⟩ := document_ok read
  have inLine : '\n' ∉ mark := fun member => absurd (marks '\n' member) (by decide)
  have travels : Travels ⟨source.toList, 1⟩ ⟨cs, 1⟩ := .of_sameLine ⟨mark, inLine, split⟩
  have run : Run word source.toList {} ⟨cs, 1⟩ d :=
    run_statements isWord travels (Draft.Sound.empty _) found
  refine ⟨run.sound.finish finish, ?_⟩
  intro single line rest there begins
  rw [split] at there
  obtain ⟨key, node, path, value, holds, due⟩ := run.held (travels.noTriple single)
    (lineAt_behind_mark isWord marks there begins) begins
  exact ⟨key, node, path, value, holds.finish value run.sound.fresh finish, due⟩

end Documents

end TemplateCalc.Toml
