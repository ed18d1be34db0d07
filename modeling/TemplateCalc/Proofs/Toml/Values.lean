import TemplateCalc.Proofs.Toml.Passing

/-!
What is known of a value once it is read.

Its keys stand in the text where they say, the names in each of its tables are distinct, and no line is
passed on the way that begins with a word. The readers of values, elements and entries call each other,
so this is shown of all three at once, by induction on the fuel.
-/

set_option autoImplicit false

namespace TemplateCalc.Toml

def Written (text : List Char) (key : Key) : Prop :=
  ∃ before part rest, text = before ++ part ∧ key.line = before.count '\n' + 1 ∧
    keyPart key.line part = .ok (some (key.name, rest))

section Written

variable {text rest : List Char} {c d : Cursor} {path : List Key}

theorem written_of_keyPath (inside : c.Within text) (read : keyPath c = .ok (some (path, rest))) :
    ∀ key ∈ path, Written text key := by
  intro key member
  obtain ⟨line, part, rest', same, found⟩ := (keyPath_ok read).2.1 key member
  obtain ⟨before, split, count⟩ := inside.travels (.of_sameLine same)
  refine ⟨before, part, rest', split, ?_, line ▸ found⟩
  rw [line, Nat.add_comm]
  exact count

theorem Written.line_pos {key : Key} (written : Written text key) : 0 < key.line := by
  obtain ⟨before, part, rest, _, line, _⟩ := written
  rw [line]
  exact Nat.succ_pos _

end Written

/-! ### Values without parts -/

theorem opensValue_of_takesNumber {cs rest : List Char} (takes : TakesNumber cs rest) :
    ∃ ch tail, cs = ch :: tail ∧ opensValue ch = true := by
  obtain ⟨_, ch, tail, split, opens⟩ := takes
  refine ⟨ch, tail, split, ?_⟩
  simp [opensValue, opens]

section Scalar

variable {word text : List Char} {c d : Cursor}

/-- A value without parts passes no line that begins with a word. -/
theorem scalar_ok {s : Scalar} (read : scalar c = .ok (s, d)) :
    Passes word c d ∧ ∃ ch tail, c.rest = ch :: tail ∧ opensValue ch = true := by
  have number {rest : List Char} (takes : TakesNumber c.rest rest) :
      Passes word c ⟨rest, c.line⟩ ∧ ∃ ch tail, c.rest = ch :: tail ∧ opensValue ch = true :=
    ⟨.of_sameLine takes.1, opensValue_of_takesNumber takes⟩
  -- a constant, a string, and then the readers of numbers in the order in which they are tried
  unfold scalar at read
  dsimp only at read
  split at read
  · rename_i rest split
    cases read
    have same : SameLine c.rest rest := by
      rw [split]
      exact sameLine_append (u := ['t', 'r', 'u', 'e']) (by decide) rest
    exact ⟨.of_sameLine same, 't', _, split, rfl⟩
  · rename_i rest split
    cases read
    have same : SameLine c.rest rest := by
      rw [split]
      exact sameLine_append (u := ['f', 'a', 'l', 's', 'e']) (by decide) rest
    exact ⟨.of_sameLine same, 'f', _, split, rfl⟩
  · split at read
    · rename_i starts
      obtain ⟨⟨s, behind⟩, found, same⟩ := bind_eq_ok read
      cases same
      obtain ⟨mark, tail, split, isMark⟩ := isMark_of_startsString starts
      refine ⟨?_, mark, tail, split, ?_⟩
      · rcases string_ok starts found with ⟨same, line⟩ | ⟨travels, triple⟩
        · have passes : Passes word c _ := .of_sameLine same
          rw [← line] at passes
          exact passes
        · exact .of_triple travels triple
      · rcases isMark with rfl | rfl <;> rfl
    · split at read
      · rename_i datetime
        cases read
        exact number (takesNumber_afterDatetime? datetime)
      · rename_i float
        cases read
        exact number (takesNumber_float? float)
      · rename_i integer
        cases read
        exact number (takesNumber_integer? integer)
      · cases read

end Scalar

/-! ### All values -/

structure ValueRead (word text : List Char) (c : Cursor) (node : Node) (d : Cursor) : Prop where
  passes : Passes word c d
  opens : ∃ ch tail, c.rest = ch :: tail ∧ opensValue ch = true
  isValue : node.IsValue
  sound : c.Within text → node.Sound (Written text)

structure ElementsRead (word text : List Char) (c : Cursor) (nodes : List Node) (d : Cursor) :
    Prop where
  passes : Passes word c d
  sound : c.Within text → ∀ node ∈ nodes, node.Sound (Written text)

def EntriesRead (text : List Char) (c : Cursor) (old new : Option Entries) : Prop :=
  c.Within text → (∀ entries, old = some entries → entries.Sound (Written text)) →
    ∀ entries, new = some entries → entries.Sound (Written text)

structure Reads (word text : List Char) (fuel : Nat) : Prop where
  value : ∀ {depth c node d}, value fuel depth c = .ok (node, d) → ValueRead word text c node d
  elements : ∀ {depth c nodes d}, elements fuel depth c = .ok (nodes, d) →
    ElementsRead word text c nodes d
  entries : ∀ {depth old new start last c d},
    bracedEntries fuel depth old last c = .ok (new, d) → Passes word start last →
    Passes word start c → Passes word start d ∧ EntriesRead text c old new

section Reads

variable {word text : List Char} {fuel depth : Nat} {c d : Cursor}

theorem passes_cons {ch : Char} {tail : List Char} (split : c.rest = ch :: tail) (other : ch ≠ '\n') :
    Passes word c ⟨tail, c.line⟩ := by
  apply Passes.of_sameLine
  rw [split]
  exact .cons other (.refl tail)

theorem value_succ (reads : Reads word text fuel) {node : Node}
    (read : value (fuel + 1) depth c = .ok (node, d)) : ValueRead word text c node d := by
  rw [value] at read
  split at read
  · rename_i rest split
    split at read
    · obtain ⟨⟨nodes, behind⟩, found, same⟩ := bind_eq_ok read
      cases same
      have first : Passes word c ⟨rest, c.line⟩ := passes_cons split (by decide)
      obtain ⟨passes, sound⟩ := reads.elements found
      exact {
        passes := first.trans passes
        opens := ⟨'[', rest, split, rfl⟩
        isValue := trivial
        sound inside := .array (sound (inside.travels first.travels)) }
    · cases read
  · rename_i rest split
    split at read
    · obtain ⟨⟨found, behind⟩, entries, same⟩ := bind_eq_ok read
      have first : Passes word c ⟨skipSpaces rest, c.line⟩ :=
        (passes_cons split (by decide)).trans (.skipSpaces word ⟨rest, c.line⟩)
      obtain ⟨passes, sound⟩ := reads.entries entries (.refl word _) (.refl word _)
      dsimp only at same
      split at same
      · cases same
      · rename_i inner rest' closes
        cases same
        exact {
          passes := (first.trans passes).trans (passes_cons closes (by decide))
          opens := ⟨'\x7b', rest, split, rfl⟩
          isValue := trivial
          sound inside := by
            -- the entries in braces are added to none
            have start (entries : Entries) (same : some [] = some entries) :
                entries.Sound (Written text) := by
              cases same
              exact .nil _
            exact (sound (inside.travels first.travels) start inner rfl).table _ _ }
      · cases same
    · cases read
  · obtain ⟨⟨s, behind⟩, found, same⟩ := bind_eq_ok read
    cases same
    obtain ⟨passes, opens⟩ := scalar_ok found
    exact ⟨passes, opens, trivial, fun _ => .scalar _ _⟩

theorem elements_succ (isWord : IsWord word) (reads : Reads word text fuel) {nodes : List Node}
    (read : elements (fuel + 1) depth c = .ok (nodes, d)) : ElementsRead word text c nodes d := by
  rw [elements] at read
  obtain ⟨start, skipped, read⟩ := bind_eq_ok read
  split at read
  · rename_i rest split
    cases read
    have front : Passes word c start := by
      apply skipLines_passes isWord skipped
      rw [split]
      exact not_begins_cons isWord rfl (.inl rfl)
    exact ⟨front.trans (passes_cons split (by decide)), fun _ => nofun⟩
  · obtain ⟨⟨node, behind⟩, found, read⟩ := bind_eq_ok read
    obtain ⟨behind', skipped', read⟩ := bind_eq_ok read
    -- only the line of an error is changed, and there was none
    have skipped' : skipLines behind = .ok behind' := by
      cases result : skipLines behind with
      | error line =>
          rw [result] at skipped'
          cases skipped'
      | ok c =>
          rw [result] at skipped'
          exact skipped'
    obtain ⟨valuePasses, ⟨ch, tail, split, opens⟩, _, sound⟩ := reads.value found
    have front : Passes word c start := by
      apply skipLines_passes isWord skipped
      rw [split]
      exact not_begins_of_opensValue isWord opens
    -- Behind the value comes a mark, which no word begins with.
    have marked {mark : Char} {rest : List Char} (split : behind'.rest = mark :: rest)
        (solid : Text.isBlank mark = false) (other : isKeyChar mark = false) (inLine : mark ≠ '\n') :
        Passes word c ⟨rest, behind'.line⟩ := by
      have onward : Passes word behind behind' := by
        apply skipLines_passes isWord skipped'
        rw [split]
        exact not_begins_cons isWord solid (.inl other)
      exact ((front.trans valuePasses).trans onward).trans (passes_cons split inLine)
    dsimp only at read
    split at read
    · rename_i rest split
      obtain ⟨⟨more, behind''⟩, onward, same⟩ := bind_eq_ok read
      cases same
      have passed := marked split rfl rfl (by decide)
      obtain ⟨passes, moreSound⟩ := reads.elements onward
      refine ⟨passed.trans passes, ?_⟩
      intro inside node' member
      rcases List.mem_cons.mp member with rfl | member
      · exact sound (inside.travels front.travels)
      · exact moreSound (inside.travels passed.travels) node' member
    · rename_i rest split
      cases read
      refine ⟨marked split rfl rfl (by decide), ?_⟩
      intro inside node' member
      rw [List.mem_singleton.mp member]
      exact sound (inside.travels front.travels)
    · cases read

theorem bracedEntries_succ (reads : Reads word text fuel) {old new : Option Entries}
    {start last : Cursor} (read : bracedEntries (fuel + 1) depth old last c = .ok (new, d))
    (toLast : Passes word start last) (toHere : Passes word start c) :
    Passes word start d ∧ EntriesRead text c old new := by
  rw [bracedEntries] at read
  obtain ⟨found, key, read⟩ := bind_eq_ok read
  split at read
  · cases read
    exact ⟨toLast, fun _ oldSound => oldSound⟩
  · rename_i path rest
    obtain ⟨⟨node, behind⟩, value, read⟩ := bind_eq_ok read
    have toValue : Passes word c ⟨skipSpaces rest, c.line⟩ := by
      have same : SameLine c.rest rest := (keyPath_ok key).1.trans (.cons (by decide) (.refl rest))
      exact (Passes.of_sameLine same).trans (.skipSpaces word ⟨rest, c.line⟩)
    obtain ⟨valuePasses, _, _, sound⟩ := reads.value value
    have toBehind : Passes word c ⟨skipSpaces behind.rest, behind.line⟩ :=
      (toValue.trans valuePasses).trans (.skipSpaces word behind)
    have added : EntriesRead text c old (do
        let key ← path.getLast?
        addValue path.dropLast key node .header (← old)) := by
      intro inside oldSound entries added
      obtain ⟨last, isLast, added⟩ := Option.bind_eq_some_iff.mp added
      obtain ⟨entries', same, added⟩ := Option.bind_eq_some_iff.mp added
      have keys := written_of_keyPath inside key
      exact (oldSound entries' same).addValue
        (fun key' member => keys key' (List.dropLast_subset _ member))
        (keys last (List.mem_of_getLast? isLast)) (sound (inside.travels toValue.travels)) added
    dsimp only at read
    split at read
    · rename_i rest' comma
      have toNext := toBehind.trans (passes_cons comma (by decide))
      obtain ⟨passes, more⟩ := reads.entries read (toHere.trans toBehind) (toHere.trans toNext)
      refine ⟨passes, ?_⟩
      intro inside oldSound
      exact more (inside.travels toNext.travels) (added inside oldSound)
    · cases read
      exact ⟨toHere.trans toBehind, added⟩
  · cases read

theorem reads (isWord : IsWord word) (text : List Char) (fuel : Nat) : Reads word text fuel := by
  -- the three readers call each other with less fuel, so one induction serves all of them
  induction fuel with
  | zero =>
      constructor
      · intro depth c node d read
        cases read
      · intro depth c nodes d read
        cases read
      · intro depth old new start last c d read
        cases read
  | succ fuel ih =>
      exact ⟨value_succ ih, elements_succ isWord ih, bracedEntries_succ ih⟩

end Reads

end TemplateCalc.Toml
