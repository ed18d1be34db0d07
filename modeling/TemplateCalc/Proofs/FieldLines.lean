import TemplateCalc.Proofs.TypedReading

/-!
The line that is reported for a field out of range.

It is looked for in the text again: the first line that starts with the field's name is taken for the
line of its key. Main statement: the line is that of the key exactly if the key begins the first such
line. Without triple marks this is so wherever the key begins its line at all, and otherwise no line is
reported. A string in triple marks can have a line that looks like the key.
-/

set_option autoImplicit false

namespace TemplateCalc.Settings

open Toml

/-! ### Lines that start with a word -/

def StartsWith (source word : String) (line : Nat) : Prop :=
  ∃ n text, line = n + 1 ∧ (linesOf source)[n]? = some text ∧
    word.toList <+: Text.skipBlanks text.toList

def FirstLine (source word : String) (line : Nat) : Prop :=
  (line = 0 ∧ ∀ n, ¬StartsWith source word n) ∨
    (StartsWith source word line ∧ ∀ n < line, ¬StartsWith source word n)

section Lines

variable {source word : String}

theorem FirstLine.eq_iff {line n : Nat} (first : FirstLine source word line) (positive : 0 < n) :
    line = n ↔ StartsWith source word n ∧ ∀ m < n, ¬StartsWith source word m := by
  constructor
  · rintro rfl
    rcases first with ⟨nowhere, _⟩ | first
    · exact absurd nowhere (Nat.ne_of_gt positive)
    · exact first
  · intro ⟨starts, earlier⟩
    rcases first with ⟨_, never⟩ | ⟨starts', earlier'⟩
    · exact absurd starts (never n)
    · rcases Nat.lt_trichotomy line n with below | same | above
      · exact absurd starts' (earlier line below)
      · exact same
      · exact absurd starts (earlier' n above)

/-- Where only one line can start with the word, the first line is this one or 0. -/
theorem FirstLine.of_only {line n : Nat} (first : FirstLine source word line)
    (only : ∀ m, StartsWith source word m → n = m) :
    (StartsWith source word n → line = n) ∧ (¬StartsWith source word n → line = 0) := by
  rcases first with ⟨nowhere, never⟩ | ⟨starts, _⟩
  · exact ⟨fun starts => absurd starts (never n), fun _ => nowhere⟩
  · obtain rfl := only line starts
    exact ⟨fun _ => rfl, fun other => absurd starts other⟩

theorem startsWith_trimStart (text word : String) :
    (Text.trimStart text).startsWith word = true ↔ word.toList <+: Text.skipBlanks text.toList := by
  rw [String.startsWith_string_iff, Text.trimStart, String.toList_ofList]

/-- The search on the characters of a text. -/
theorem lineStartingWith_eq (word source : String) :
    lineStartingWith word source = ((source.toList.splitOn '\n').findIdx? fun line =>
      word.toList.isPrefixOf (Text.skipBlanks line)).elim 0 (· + 1) := by
  have test : (fun line => (Text.trimStart line).startsWith word) ∘ String.ofList =
      fun line => word.toList.isPrefixOf (Text.skipBlanks line) := by
    funext line
    rw [Bool.eq_iff_iff, Function.comp_apply, startsWith_trimStart, String.toList_ofList,
      List.isPrefixOf_iff_prefix]
  rw [lineStartingWith, linesOf, List.findIdx?_map, test]

/-- The search finds the first line that starts with the word. -/
theorem firstLine_lineStartingWith (word source : String) :
    FirstLine source word (lineStartingWith word source) := by
  unfold lineStartingWith
  cases found : (linesOf source).findIdx? fun line => (Text.trimStart line).startsWith word with
  | none =>
      refine .inl ⟨rfl, ?_⟩
      rintro _ ⟨n, text, rfl, isLine, starts⟩
      have fails := List.findIdx?_eq_none_iff.mp found text (List.mem_of_getElem? isLine)
      rw [(startsWith_trimStart text word).mpr starts] at fails
      cases fails
  | some first =>
      obtain ⟨bound, starts, earlier⟩ := List.findIdx?_eq_some_iff_getElem.mp found
      refine .inr ⟨⟨first, _, rfl, List.getElem?_eq_getElem bound, ?_⟩, ?_⟩
      · exact (startsWith_trimStart _ word).mp starts
      · rintro _ below ⟨n, text, rfl, isLine, starts'⟩
        have before : n < first := Nat.lt_of_succ_lt_succ below
        obtain ⟨_, same⟩ := List.getElem?_eq_some_iff.mp isLine
        apply earlier n before
        rw [same]
        exact (startsWith_trimStart text word).mpr starts'

/-- The lines into which a text is divided are those that cursors count. -/
theorem lineAt_of_splitOn {cs text : List Char} {n : Nat}
    (isLine : (cs.splitOn '\n')[n]? = some text) :
    ∃ passed rest, cs = passed ++ rest ∧ (passed = [] ∨ ∃ before, passed = before ++ ['\n']) ∧
      passed.count '\n' = n ∧ text = rest.takeWhile (· != '\n') := by
  -- a line end starts a line of its own, and any other character is put in front of the first one
  induction cs generalizing text n with
  | nil =>
      cases n with
      | zero =>
          cases isLine
          exact ⟨[], [], rfl, .inl rfl, rfl, rfl⟩
      | succ n => cases isLine
  | cons c cs ih =>
      unfold List.splitOn at isLine ih
      rw [List.splitOnP_cons_eq_if_modifyHead] at isLine
      split at isLine
      · rename_i ends
        rw [beq_iff_eq] at ends
        subst ends
        cases n with
        | zero =>
            cases isLine
            exact ⟨[], '\n' :: cs, rfl, .inl rfl, rfl, rfl⟩
        | succ n =>
            obtain ⟨passed, rest, rfl, start, count, rfl⟩ := ih isLine
            refine ⟨'\n' :: passed, rest, rfl, .inr ?_, ?_, rfl⟩
            · rcases start with rfl | ⟨before, rfl⟩
              · exact ⟨[], rfl⟩
              · exact ⟨'\n' :: before, rfl⟩
            · rw [List.count_cons_self, count]
      · rename_i other
        rw [beq_iff_eq] at other
        obtain ⟨first, lines, whole⟩ :=
          List.exists_cons_of_ne_nil (List.splitOnP_ne_nil (· == '\n') cs)
        rw [whole, List.modifyHead_cons] at isLine
        rw [whole] at ih
        cases n with
        | zero =>
            cases isLine
            obtain ⟨passed, rest, rfl, start, count, rfl⟩ := ih (n := 0) rfl
            rcases start with rfl | ⟨before, rfl⟩
            · refine ⟨[], c :: rest, rfl, .inl rfl, rfl, ?_⟩
              rw [List.takeWhile_cons_of_pos (by simpa using other)]
            · rw [List.count_append] at count
              exact absurd count (by simp)
        | succ n =>
            obtain ⟨passed, rest, rfl, start, count, rfl⟩ := ih (n := n + 1) isLine
            rcases start with rfl | ⟨before, rfl⟩
            · cases count
            · refine ⟨c :: (before ++ ['\n']), rest, rfl, .inr ⟨c :: before, rfl⟩, ?_, rfl⟩
              rw [List.count_cons_of_ne other, count]

theorem lineAt_of_startsWith {line : Nat} (starts : StartsWith source word line) :
    ∃ rest, LineAt ⟨source.toList, 1⟩ line rest ∧ Begins word.toList rest := by
  obtain ⟨n, text, rfl, isLine, starts⟩ := starts
  rw [linesOf, List.getElem?_map] at isLine
  obtain ⟨chars, charLine, rfl⟩ := Option.map_eq_some_iff.mp isLine
  obtain ⟨passed, rest, split, start, count, rfl⟩ := lineAt_of_splitOn charLine
  refine ⟨rest, ⟨passed, split, start, ?_⟩, ?_⟩
  · rw [count, Nat.add_comm]
  · rw [String.toList_ofList] at starts
    exact starts

end Lines

/-! ### The line of a field -/

/-- No other name of the settings begins with a field's name. -/
def Unmistakable (table field : String) : Prop :=
  ∀ names ∈ settingNames, ¬field.toList <+: names.1.toList ∧
    (field.toList <+: names.2.toList → names = (table, field))

section Located

variable {source table field : String} {entries : Entries} {s : Settings} {line : Nat}

/-- Without triple marks, the key of a field stands on every line that starts with the field. -/
theorem setting?_of_startsWith (read : document source = .ok entries)
    (typed : setEntries tables {} entries = .ok s) (isWord : IsWord field.toList)
    (unmistakable : Unmistakable table field) (single : NoTriple source.toList)
    (starts : StartsWith source field line) :
    ∃ key node, setting? entries table field = some (key, node) ∧ key.line = line := by
  obtain ⟨sound, held⟩ := document_lines isWord read
  obtain ⟨rest, there, begins⟩ := lineAt_of_startsWith starts
  obtain ⟨key, node, path, _, holds, due⟩ := held single line rest there begins
  rcases holds_settings sound typed holds with ⟨rfl, other, member⟩ | ⟨table', rfl, member, found⟩
  · rcases due with ⟨starts, _⟩ | ⟨name, inside, _⟩
    · exact absurd starts (unmistakable _ member).1
    · cases inside
  · rcases due with ⟨starts, onLine⟩ | ⟨name, inside, starts⟩
    · have same := (unmistakable _ member).2 starts
      injection same with sameTable sameField
      subst sameTable
      rw [sameField] at found
      exact ⟨key, node, found, onLine⟩
    · rw [List.mem_singleton.mp inside] at starts
      exact absurd starts (unmistakable _ member).1

/-- How a line is due to a field with a value. It is the first that starts with the field. Of the key
that is written for the field, it is the line if that begins the first such line, and without triple
marks it is the line if that begins with the key at all. Otherwise the table was given as an array. -/
structure Located (source : String) (entries : Entries) (table field : String)
    (read : Nat → Node → Except LoadError Nat) (value line : Nat) : Prop where
  first : FirstLine source field line
  written : ∀ key node, setting? entries table field = some (key, node) →
    Written source.toList key ∧ read key.line node = .ok value ∧
      (line = key.line ↔
        StartsWith source field key.line ∧ ∀ n < key.line, ¬StartsWith source field n) ∧
      (NoTriple source.toList → (StartsWith source field key.line → line = key.line) ∧
        (¬StartsWith source field key.line → line = 0))
  unwritten : setting? entries table field = none →
    (∃ own elements, entries.find? table = some (.array own elements)) ∧
      (NoTriple source.toList → line = 0)

theorem located {α : Type} {fields : List (Field α)} {start r : α} {get : α → Nat}
    {reader : Nat → Node → Except LoadError Nat}
    (isField : IsField fields field reader get) (isWord : IsWord field.toList)
    (unmistakable : Unmistakable table field) (read : document source = .ok entries)
    (typed : setEntries tables {} entries = .ok s) (isTable : TableRead entries table fields start r)
    (changed : get r ≠ get start) :
    Located source entries table field reader (get r) (lineStartingWith field source) := by
  have sound := (document_lines isWord read).1
  have first := firstLine_lineStartingWith field source
  have value := isField.value sound isTable changed
  refine ⟨first, ?_, ?_⟩
  · intro key node found
    -- a changed value is due to a key that is written, or to an array
    rcases value with ⟨key', node', found', written, set⟩ | ⟨none, _⟩
    · rw [found] at found'
      cases found'
      refine ⟨written, set, first.eq_iff written.line_pos, ?_⟩
      intro single
      apply first.of_only
      intro n starts
      obtain ⟨key', node', found', line⟩ :=
        setting?_of_startsWith read typed isWord unmistakable single starts
      rw [found] at found'
      cases found'
      exact line
    · rw [found] at none
      cases none
  · intro missing
    rcases value with ⟨key', node', found', _⟩ | ⟨_, isArray⟩
    · rw [missing] at found'
      cases found'
    · refine ⟨isArray, ?_⟩
      intro single
      rcases first with ⟨nowhere, _⟩ | ⟨starts, _⟩
      · exact nowhere
      · obtain ⟨key, node, found, _⟩ :=
          setting?_of_startsWith read typed isWord unmistakable single starts
        rw [missing] at found
        cases found

end Located

/-! ### The two fields with a range -/

section Ranges

variable {source : String} {entries : Entries} {s : Settings}

theorem isWord_radix : IsWord "radix".toList :=
  ⟨List.all_eq_true.mp (by decide), 'r', "adix".toList, by decide, by decide⟩

theorem isWord_groupSize : IsWord "group_size".toList :=
  ⟨List.all_eq_true.mp (by decide), 'g', "roup_size".toList, by decide, by decide⟩

theorem unmistakable_radix : Unmistakable "eval" "radix" := by
  unfold Unmistakable
  decide

theorem unmistakable_groupSize : Unmistakable "format" "group_size" := by
  unfold Unmistakable
  decide

theorem load_eq_validate (read : document source = .ok entries)
    (typed : setEntries tables {} entries = .ok s) :
    load source = (validate source s).map fun _ => s := by
  rw [load, read]
  dsimp only
  rw [typed]
  cases result : validate source s with
  | error e => simp [bind, Except.bind, result, Except.map]
  | ok u => simp [bind, Except.bind, result, Except.map, pure, Except.pure]

end Ranges

/-- A radix out of its range, or else a group without digits, is the error of a document that the typed
reading accepts. Its line is that of the key exactly as `Located` says. -/
theorem range_errors_are_located (source : String) (entries : Entries) (s : Settings)
    (read : document source = .ok entries) (typed : setEntries tables {} entries = .ok s) :
    (s.eval.radix < 2 ∨ 36 < s.eval.radix →
      ∃ line, load source =
          .error (.invalid line ("radix must be from 2 to 36, not " ++ Numeral.decimal s.eval.radix)) ∧
        Located source entries "eval" "radix" (natural wordBound "u32") s.eval.radix line) ∧
    (2 ≤ s.eval.radix ∧ s.eval.radix ≤ 36 → s.format.groupSize = 0 →
      ∃ line, load source = .error (.invalid line "group_size must be at least 1") ∧
        Located source entries "format" "group_size" (natural longWordBound "usize") 0 line) := by
  have distinct := (document_lines isWord_radix read).1.distinct
  constructor
  · intro outside
    have changed : s.eval.radix ≠ ({} : EvalOptions).radix := by
      change s.eval.radix ≠ 10
      omega
    refine ⟨lineStartingWith "radix" source, ?_, ?_⟩
    · rw [load_eq_validate read typed, validate, if_pos outside]
      rfl
    · exact located isField_radix isWord_radix unmistakable_radix read typed (eval_read distinct typed)
        changed
  · intro inside empty
    have changed : s.format.groupSize ≠ ({} : FormatOptions).groupSize := by
      change s.format.groupSize ≠ 3
      omega
    have passes : ¬(s.eval.radix < 2 ∨ s.eval.radix > 36) := by omega
    refine ⟨lineStartingWith "group_size" source, ?_, ?_⟩
    · rw [load_eq_validate read typed, validate, if_neg passes, if_pos empty]
      rfl
    · rw [← empty]
      exact located isField_groupSize isWord_groupSize unmistakable_groupSize read typed
        (format_read distinct typed) changed

def radixAndLine? (source : String) : Option (Nat × Nat) :=
  match document source with
  | .error _ => none
  | .ok entries =>
    match setEntries tables {} entries, setting? entries "eval" "radix" with
    | .ok s, some (key, _) => some (s.eval.radix, key.line)
    | _, _ => none

theorem radixAndLine?_some {source : String} {radix line : Nat}
    (found : radixAndLine? source = some (radix, line)) :
    ∃ entries s key node, document source = .ok entries ∧ setEntries tables {} entries = .ok s ∧
      setting? entries "eval" "radix" = some (key, node) ∧ s.eval.radix = radix ∧ key.line = line := by
  unfold radixAndLine? at found
  split at found
  · cases found
  · rename_i entries read
    split at found
    · rename_i s key node typed set
      cases found
      exact ⟨entries, s, key, node, read, typed, set, rfl, rfl⟩
    · cases found

def commented : String :=
  "# radix\n[format]\nint_format = \"hex\"\n\n[eval] # options\n  radix\t= 40\n"

theorem commented_radix_is_located :
    ∃ entries s, document commented = .ok entries ∧ setEntries tables {} entries = .ok s ∧
      36 < s.eval.radix ∧ ∃ line,
        load commented =
          .error (.invalid line ("radix must be from 2 to 36, not " ++ Numeral.decimal s.eval.radix)) ∧
        Located commented entries "eval" "radix" (natural wordBound "u32") s.eval.radix line := by
  have values : radixAndLine? commented = some (40, 6) := by decide +kernel
  obtain ⟨entries, s, key, node, read, typed, _, radix, _⟩ := radixAndLine?_some values
  have outside : 36 < s.eval.radix := by
    rw [radix]
    decide
  exact ⟨entries, s, read, typed, outside,
    (range_errors_are_located commented entries s read typed).1 (.inr outside)⟩

def misleading : String :=
  "[format]\nstring_format = \"\"\"\nradix\"\"\"\n\n[eval]\nradix = 40\n"

/-- The radix is written on the sixth line, and the third one is reported. -/
theorem line_of_string_is_reported :
    ∃ entries s key node, document misleading = .ok entries ∧
      setEntries tables {} entries = .ok s ∧ setting? entries "eval" "radix" = some (key, node) ∧
      s.eval.radix = 40 ∧ key.line = 6 ∧
      load misleading = .error (.invalid 3 "radix must be from 2 to 36, not 40") := by
  have values : radixAndLine? misleading = some (40, 6) := by decide +kernel
  obtain ⟨entries, s, key, node, read, typed, set, radix, line⟩ := radixAndLine?_some values
  refine ⟨entries, s, key, node, read, typed, set, radix, line, ?_⟩
  have found : lineStartingWith "radix" misleading = 3 := by
    rw [lineStartingWith_eq]
    decide +kernel
  have outside : s.eval.radix < 2 ∨ s.eval.radix > 36 := by omega
  have message : "radix must be from 2 to 36, not " ++ Numeral.decimal 40 =
      "radix must be from 2 to 36, not 40" := by decide
  rw [load_eq_validate read typed, validate, if_pos outside, found, radix, message]
  rfl

end TemplateCalc.Settings
