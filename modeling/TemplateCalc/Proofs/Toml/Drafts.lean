import TemplateCalc.Proofs.Toml.Entries

/-!
Drafts keep what they are given.

A draft is sound if its two trees are. Whatever statement comes next, it stays sound, and each value
that was added stays at its path: either in the finished part, or behind the path of the table that is
being read.
-/

set_option autoImplicit false

namespace TemplateCalc.Toml

variable {valid : Key → Prop} {key held : Key} {node heldNode : Node} {origin : Origin}
  {entries entries' : Entries} {way : List Key} {path : List String}

/-! ### A new value -/

/-- Puts a value under a key that is new. Behind dots its table must have been made by dots. -/
def newEntry (way : List Key) (key : Key) (node : Node) (origin : Origin) (entries : Entries) :
    Option (Unit × Entries) := do
  guard (way.isEmpty ∨ origin = .dotted)
  guard (entries.find? key.name).isNone
  return ((), entries.add key node)

theorem addValue_eq (way : List Key) (key : Key) (node : Node) (origin : Origin) (entries : Entries) :
    addValue way key node origin entries =
      (changeAt .dotted (newEntry way key node) way origin entries).map (·.2) :=
  rfl

theorem newEntry_some {u : Unit} (put : newEntry way key node origin entries = some (u, entries')) :
    entries.find? key.name = none ∧ entries' = entries.add key node := by
  obtain ⟨_, _, put⟩ := Option.bind_eq_some_iff.mp put
  obtain ⟨_, new, same⟩ := Option.bind_eq_some_iff.mp put
  cases same
  exact ⟨Option.isNone_iff_eq_none.mp (of_guard new), rfl⟩

theorem Entries.Sound.addValue (sound : entries.Sound valid) (keys : ∀ key ∈ way, valid key)
    (isValid : valid key) (inside : node.Sound valid)
    (added : Toml.addValue way key node origin entries = some entries') : entries'.Sound valid := by
  rw [addValue_eq] at added
  obtain ⟨⟨u, entries'⟩, changed, same⟩ := Option.map_eq_some_iff.mp added
  cases same
  have kept (origin : Origin) (entries : Entries) (u : Unit) (entries' : Entries)
      (put : newEntry way key node origin entries = some (u, entries'))
      (sound : entries.Sound valid) : entries'.Sound valid ∧ True := by
    obtain ⟨new, rfl⟩ := newEntry_some put
    exact ⟨sound.add new isValid inside, trivial⟩
  exact (sound_changeAt kept keys changed sound).1

theorem Entries.Holds.addValue (value : heldNode.IsValue) (holds : entries.Holds held heldNode path)
    (added : Toml.addValue way key node origin entries = some entries') :
    entries'.Holds held heldNode path := by
  rw [addValue_eq] at added
  obtain ⟨⟨u, entries'⟩, changed, same⟩ := Option.map_eq_some_iff.mp added
  cases same
  have kept (origin : Origin) (entries : Entries) (u : Unit) (entries' : Entries) (path : List String)
      (put : newEntry way key node origin entries = some (u, entries'))
      (holds : entries.Holds held heldNode path) :
      entries'.Holds held heldNode path ∨ False := by
    obtain ⟨_, rfl⟩ := newEntry_some put
    exact .inl (holds.add key node)
  rcases holds_changeAt (fun _ _ => False) value kept changed holds with holds | ⟨_, _, lost⟩
  · exact holds
  · exact lost.elim

theorem addValue_holds (added : addValue way key node origin entries = some entries') :
    entries'.Holds key node (way.map (·.name)) := by
  rw [addValue_eq] at added
  obtain ⟨⟨u, entries'⟩, changed, same⟩ := Option.map_eq_some_iff.mp added
  cases same
  obtain ⟨_, inner, inner', put, reached⟩ := holds_changed changed
  obtain ⟨new, rfl⟩ := newEntry_some put
  have there := reached key node [] (.here (Entries.lookup?_add_self new))
  rw [List.append_nil] at there
  exact there

/-! ### Tables of headers -/

namespace Draft

section PutTable

variable {line : Option Nat} {inArray : Bool} {table : Entries} {u : Unit}

/-- A finished table is put under a new key or at the end of its row. -/
theorem putTable_some (valid : Key → Prop)
    (put : putTable key line inArray table origin entries = some (u, entries')) :
    (∃ node : Node, entries.find? key.name = none ∧ node.Opens table ∧
      (table.Sound valid → node.Sound valid) ∧ entries' = entries.add key node) ∨
    ∃ tables, entries.find? key.name = some (.tableArray tables) ∧
      entries' = entries.replace key.name (.tableArray (tables ++ [.table .header line table])) := by
  unfold putTable at put
  dsimp only at put
  split at put
  · rename_i tables found
    cases put
    exact .inr ⟨tables, found, rfl⟩
  · rename_i missing
    cases put
    have empty : (Node.tableArray []).Sound valid := .tableArray nofun nofun
    exact .inl ⟨_, missing, .row (List.mem_singleton_self _), fun sound => empty.row _ _ sound, rfl⟩
  · cases put
  · rename_i missing
    cases put
    exact .inl ⟨_, missing, .table _ _ _, fun sound => sound.table _ _, rfl⟩
  · cases put

theorem sound_putTable (isValid : valid key) (inside : table.Sound valid)
    (put : putTable key line inArray table origin entries = some (u, entries'))
    (sound : entries.Sound valid) : entries'.Sound valid := by
  rcases putTable_some valid put with ⟨node, new, _, nodeSound, rfl⟩ | ⟨tables, found, rfl⟩
  · exact sound.add new isValid (nodeSound inside)
  · exact sound.replace ((sound.of_find? found).row _ _ inside)

theorem holds_putTable (value : heldNode.IsValue)
    (put : putTable key line inArray table origin entries = some (u, entries'))
    (holds : entries.Holds held heldNode path) : entries'.Holds held heldNode path := by
  rcases putTable_some (fun _ => True) put with ⟨node, new, _, _, rfl⟩ | ⟨tables, found, rfl⟩
  · exact holds.add key node
  · rcases holds.elsewhere value id found fun _ => Entries.lookup?_replace_of_ne entries
        (.tableArray (tables ++ [.table .header line table])) with
      holds | ⟨rest, inner, rfl, opens, holds⟩
    · exact holds
    · cases opens with
      | row member =>
          exact .inside (Entries.find?_replace_self found _) (.row (List.mem_append_left _ member)) holds

theorem putTable_holds (put : putTable key line inArray table origin entries = some (u, entries'))
    (holds : table.Holds held heldNode path) : entries'.Holds held heldNode (key.name :: path) := by
  rcases putTable_some (fun _ => True) put with
    ⟨node, new, opens, _, rfl⟩ | ⟨tables, found, rfl⟩
  · refine .inside ?_ opens holds
    rw [Entries.find?_eq, Entries.lookup?_add_self new]
    rfl
  · exact .inside (Entries.find?_replace_self found _)
      (.row (List.mem_append_right _ (List.mem_singleton_self _))) holds

end PutTable

section Openings

variable {taken : Entries}

theorem takeTable_some (took : takeTable key origin entries = some (taken, entries')) :
    (taken = [] ∧ entries' = entries) ∨
    ∃ line, entries.find? key.name = some (.table .onTheWay line taken) ∧
      entries' = entries.remove key.name := by
  unfold takeTable at took
  split at took
  · cases took
    exact .inl ⟨rfl, rfl⟩
  · rename_i line inner found
    cases took
    exact .inr ⟨line, found, rfl⟩
  · cases took

theorem openRow_some (opened : openRow key origin entries = some (taken, entries')) :
    taken = [] ∧ (entries' = entries ∨
      entries.find? key.name = none ∧ entries' = entries.add key (.tableArray [])) := by
  unfold openRow at opened
  split at opened
  · rename_i missing
    cases opened
    exact ⟨rfl, .inr ⟨missing, rfl⟩⟩
  · cases opened
    exact ⟨rfl, .inl rfl⟩
  · cases opened

def openTable (key : Key) (inArray : Bool) : Origin → Entries → Option (Entries × Entries) :=
  if inArray then openRow key else takeTable key

variable {inArray : Bool}

theorem sound_openTable (isValid : valid key)
    (opened : openTable key inArray origin entries = some (taken, entries'))
    (sound : entries.Sound valid) : entries'.Sound valid ∧ taken.Sound valid := by
  cases inArray with
  | true =>
      have opened : openRow key origin entries = some (taken, entries') := opened
      obtain ⟨rfl, rfl | ⟨new, rfl⟩⟩ := openRow_some opened
      · exact ⟨sound, .nil valid⟩
      · exact ⟨sound.add new isValid (.tableArray nofun nofun), .nil valid⟩
  | false =>
      have opened : takeTable key origin entries = some (taken, entries') := opened
      rcases takeTable_some opened with ⟨rfl, rfl⟩ | ⟨line, found, rfl⟩
      · exact ⟨sound, .nil valid⟩
      · exact ⟨sound.remove key.name, .of_table (sound.of_find? found)⟩

/-- What a header takes out of the document it takes with it. -/
theorem holds_openTable (value : heldNode.IsValue)
    (opened : openTable key inArray origin entries = some (taken, entries'))
    (holds : entries.Holds held heldNode path) :
    entries'.Holds held heldNode path ∨
      ∃ rest, path = key.name :: rest ∧ taken.Holds held heldNode rest := by
  cases inArray with
  | true =>
      have opened : openRow key origin entries = some (taken, entries') := opened
      obtain ⟨_, rfl | ⟨_, rfl⟩⟩ := openRow_some opened
      · exact .inl holds
      · exact .inl (holds.add key _)
  | false =>
      have opened : takeTable key origin entries = some (taken, entries') := opened
      rcases takeTable_some opened with ⟨_, rfl⟩ | ⟨line, found, rfl⟩
      · exact .inl holds
      · rcases holds.elsewhere value id found fun _ => Entries.lookup?_remove_of_ne entries with
          holds | ⟨rest, inner, rfl, opens, holds⟩
        · exact .inl holds
        · cases opens
          exact .inr ⟨rest, rfl, holds⟩

end Openings

/-! ### Drafts -/

structure Sound (valid : Key → Prop) (d : Draft) : Prop where
  root : d.root.Sound valid
  entries : d.entries.Sound valid
  path : ∀ key ∈ d.path, valid key
  fresh : d.path = [] → d.root = []

/-- What a draft holds: in its finished part, or behind the path of its current table. -/
def Holds (d : Draft) (key : Key) (node : Node) (path : List String) : Prop :=
  d.root.Holds key node path ∨
    ∃ rest, path = d.path.map (·.name) ++ rest ∧ d.entries.Holds key node rest

theorem Sound.empty (valid : Key → Prop) : Sound valid {} where
  root := .nil valid
  entries := .nil valid
  path := nofun
  fresh _ := rfl

variable {d d' : Draft} {line : Nat} {inArray : Bool}

theorem finish_cases (finished : d.finish = some entries) :
    (d.path = [] ∧ entries = d.entries) ∨
    ∃ front key, d.path = front ++ [key] ∧
      changeAt .onTheWay (putTable key d.line d.inArray d.entries) front .header d.root =
        some ((), entries) := by
  unfold finish at finished
  split at finished
  · rename_i none
    cases finished
    exact .inl ⟨List.getLast?_eq_none_iff.mp none, rfl⟩
  · rename_i key last
    obtain ⟨⟨u, entries⟩, changed, same⟩ := Option.map_eq_some_iff.mp finished
    cases same
    exact .inr ⟨d.path.dropLast, key, (List.dropLast_append_getLast? key last).symm, changed⟩

theorem Sound.finish (sound : d.Sound valid) (finished : d.finish = some entries) :
    entries.Sound valid := by
  rcases finish_cases finished with ⟨_, rfl⟩ | ⟨front, key, path, changed⟩
  · exact sound.entries
  · have keys := sound.path
    rw [path] at keys
    obtain ⟨front, last⟩ := List.forall_mem_append.mp keys
    have isValid : valid key := last key (List.mem_singleton_self key)
    have kept (origin : Origin) (entries : Entries) (u : Unit) (entries' : Entries)
        (put : putTable key d.line d.inArray d.entries origin entries = some (u, entries'))
        (whole : entries.Sound valid) : entries'.Sound valid ∧ True :=
      ⟨sound_putTable isValid sound.entries put whole, trivial⟩
    exact (sound_changeAt kept front changed sound.root).1

theorem Holds.finish (value : heldNode.IsValue) (holds : d.Holds held heldNode path)
    (fresh : d.path = [] → d.root = []) (finished : d.finish = some entries) :
    entries.Holds held heldNode path := by
  rcases finish_cases finished with ⟨empty, rfl⟩ | ⟨front, key, whole, changed⟩
  · rcases holds with holds | ⟨rest, rfl, holds⟩
    · rw [fresh empty] at holds
      cases holds with
      | here found => cases found
      | inside found => cases found
    · rw [empty]
      exact holds
  · rcases holds with holds | ⟨rest, rfl, holds⟩
    · have kept (origin : Origin) (entries : Entries) (u : Unit) (entries' : Entries)
          (path : List String)
          (put : putTable key d.line d.inArray d.entries origin entries = some (u, entries'))
          (holds : entries.Holds held heldNode path) :
          entries'.Holds held heldNode path ∨ False :=
        .inl (holds_putTable value put holds)
      rcases holds_changeAt (fun _ _ => False) value kept changed holds with
        holds | ⟨_, _, lost⟩
      · exact holds
      · exact lost.elim
    · obtain ⟨_, inner, inner', put, reached⟩ := holds_changed changed
      have there := reached held heldNode (key.name :: rest) (putTable_holds put holds)
      rw [whole, List.map_append, List.append_assoc]
      exact there

theorem start_cases (started : d.start way line inArray = some d') :
    ∃ root front key, d.finish = some root ∧ way = front ++ [key] ∧ d'.path = way ∧
      changeAt .onTheWay (openTable key inArray) front .header root = some (d'.entries, d'.root) := by
  obtain ⟨root, finished, started⟩ := Option.bind_eq_some_iff.mp started
  obtain ⟨key, last, started⟩ := Option.bind_eq_some_iff.mp started
  obtain ⟨⟨entries, root'⟩, changed, same⟩ := Option.bind_eq_some_iff.mp started
  cases same
  exact ⟨root, way.dropLast, key, finished, (List.dropLast_append_getLast? key last).symm, rfl, changed⟩

theorem Sound.start (sound : d.Sound valid) (keys : ∀ key ∈ way, valid key)
    (started : d.start way line inArray = some d') : d'.Sound valid := by
  obtain ⟨root, front, key, finished, rfl, path, changed⟩ := start_cases started
  obtain ⟨front, last⟩ := List.forall_mem_append.mp keys
  have isValid : valid key := last key (List.mem_singleton_self key)
  have kept (origin : Origin) (entries taken entries' : Entries)
      (opened : openTable key inArray origin entries = some (taken, entries'))
      (whole : entries.Sound valid) : entries'.Sound valid ∧ taken.Sound valid :=
    sound_openTable isValid opened whole
  obtain ⟨rootSound, entriesSound⟩ := sound_changeAt kept front changed (sound.finish finished)
  refine ⟨rootSound, entriesSound, ?_, ?_⟩
  · rw [path]
    exact keys
  · intro empty
    rw [path] at empty
    exact absurd empty (List.append_ne_nil_of_right_ne_nil _ (List.cons_ne_nil key []))

theorem Holds.start (value : heldNode.IsValue) (holds : d.Holds held heldNode path)
    (fresh : d.path = [] → d.root = []) (started : d.start way line inArray = some d') :
    d'.Holds held heldNode path := by
  obtain ⟨root, front, key, finished, rfl, own, changed⟩ := start_cases started
  have kept (origin : Origin) (entries taken entries' : Entries) (path : List String)
      (opened : openTable key inArray origin entries = some (taken, entries'))
      (holds : entries.Holds held heldNode path) :
      entries'.Holds held heldNode path ∨
        ∃ rest, path = key.name :: rest ∧ taken.Holds held heldNode rest :=
    holds_openTable value opened holds
  rcases holds_changeAt (fun path taken =>
      ∃ rest, path = key.name :: rest ∧ taken.Holds held heldNode rest)
    value kept changed (holds.finish value fresh finished) with stayed | ⟨_, rfl, rest, rfl, moved⟩
  · exact .inl stayed
  · refine .inr ⟨rest, ?_, moved⟩
    rw [own, List.map_append, List.append_assoc]
    rfl

theorem add_cases (added : d.add way node = some d') :
    ∃ front key, way = front ++ [key] ∧ d'.root = d.root ∧ d'.path = d.path ∧
      addValue front key node .header d.entries = some d'.entries := by
  obtain ⟨key, last, added⟩ := Option.bind_eq_some_iff.mp added
  obtain ⟨entries, changed, same⟩ := Option.bind_eq_some_iff.mp added
  cases same
  exact ⟨way.dropLast, key, (List.dropLast_append_getLast? key last).symm, rfl, rfl, changed⟩

theorem Sound.add (sound : d.Sound valid) (keys : ∀ key ∈ way, valid key)
    (inside : node.Sound valid) (added : d.add way node = some d') : d'.Sound valid := by
  obtain ⟨front, key, rfl, root, path, changed⟩ := add_cases added
  obtain ⟨front, last⟩ := List.forall_mem_append.mp keys
  have isValid : valid key := last key (List.mem_singleton_self key)
  constructor
  · rw [root]
    exact sound.root
  · exact sound.entries.addValue front isValid inside changed
  · rw [path]
    exact sound.path
  · rw [root, path]
    exact sound.fresh

theorem Holds.add (value : heldNode.IsValue) (holds : d.Holds held heldNode path)
    (added : d.add way node = some d') : d'.Holds held heldNode path := by
  obtain ⟨front, key, _, root, own, changed⟩ := add_cases added
  rcases holds with holds | ⟨rest, rfl, holds⟩
  · left
    rw [root]
    exact holds
  · right
    rw [own]
    exact ⟨rest, rfl, holds.addValue value changed⟩

theorem add_holds (added : d.add way node = some d') :
    ∃ front key, way = front ++ [key] ∧
      d'.Holds key node (d.path.map (·.name) ++ front.map (·.name)) := by
  obtain ⟨front, key, rfl, _, own, changed⟩ := add_cases added
  refine ⟨front, key, rfl, .inr ⟨front.map (·.name), ?_, addValue_holds changed⟩⟩
  rw [own]

end Draft

end TemplateCalc.Toml
