import TemplateCalc.Proofs.Toml.Statements
import TemplateCalc.Settings.Load

/-!
What the typed reading of a document says about it.

Settings are read only from a document in which every value is a field of one of the two tables, and a
field has the value of the one key with its name. Tables have to be given by their names or as arrays;
no field is itself a table.
-/

set_option autoImplicit false

namespace TemplateCalc.Settings

open Toml

section Fields

variable {α β : Type} {fields : List (Field α)} {entries : Entries} {key : Key} {node : Node}
  {a r : α} {name : String}

/-- The first entry is set by the field with its name, the others after it. -/
theorem setEntries_cons (done : setEntries fields a ((key, node) :: entries) = .ok r) :
    ∃ field b, fields.find? (·.name == key.name) = some field ∧ field.set key.line node a = .ok b ∧
      setEntries fields b entries = .ok r := by
  rw [setEntries] at done
  split at done
  · cases done
  · rename_i field found
    obtain ⟨b, set, onward⟩ := bind_eq_ok done
    exact ⟨field, b, found, set, onward⟩

theorem setEntries_mem (done : setEntries fields a entries = .ok r) (member : (key, node) ∈ entries) :
    ∃ field b c, fields.find? (·.name == key.name) = some field ∧ field.set key.line node b = .ok c := by
  induction entries generalizing a with
  | nil => cases member
  | cons entry entries ih =>
      obtain ⟨key', node'⟩ := entry
      obtain ⟨field, b, found, set, onward⟩ := setEntries_cons done
      rcases List.mem_cons.mp member with same | member
      · cases same
        exact ⟨field, a, b, found, set⟩
      · exact ih onward member

def OnlyChangedBy (fields : List (Field α)) (name : String) (get : α → β) : Prop :=
  ∀ field ∈ fields, field.name ≠ name → ∀ line node a b, field.set line node a = .ok b →
    get b = get a

variable {get : α → β}

theorem get_setEntries_of_missing (others : OnlyChangedBy fields name get)
    (missing : name ∉ entries.map (·.1.name)) (done : setEntries fields a entries = .ok r) :
    get r = get a := by
  induction entries generalizing a with
  | nil =>
      cases done
      rfl
  | cons entry entries ih =>
      obtain ⟨key, node⟩ := entry
      obtain ⟨field, b, found, set, onward⟩ := setEntries_cons done
      rw [List.map_cons, List.mem_cons, not_or] at missing
      have own : field.name = key.name := by simpa using List.find?_some found
      have different : field.name ≠ name := by
        rw [own]
        exact Ne.symm missing.1
      rw [ih missing.2 onward]
      exact others field (List.mem_of_find?_eq_some found) different _ _ _ _ set

/-- A part of the record is what the one entry with its name made of it. -/
theorem get_setEntries (others : OnlyChangedBy fields name get)
    (distinct : (entries.map (·.1.name)).Nodup) (done : setEntries fields a entries = .ok r)
    (found : entries.lookup? name = some (key, node)) :
    ∃ field b c, fields.find? (·.name == name) = some field ∧ field.set key.line node b = .ok c ∧
      get r = get c := by
  induction entries generalizing a with
  | nil => cases found
  | cons entry entries ih =>
      obtain ⟨key', node'⟩ := entry
      obtain ⟨field, b, isField, set, onward⟩ := setEntries_cons done
      rw [List.map_cons, List.nodup_cons] at distinct
      unfold Entries.lookup? at found
      rw [List.find?_cons] at found
      split at found
      · rename_i same
        rw [beq_iff_eq] at same
        cases found
        subst same
        exact ⟨field, a, b, isField, set, get_setEntries_of_missing others distinct.1 onward⟩
      · exact ih distinct.2 onward found

end Fields

/-! ### Records -/

section Records

variable {α β : Type} {fields : List (Field α)} {start r : α} {name expected : String} {line : Nat}
  {node : Node} {inner entries : Entries} {key : Key} {valid : Key → Prop} {path : List String}

def RefusesTables (fields : List (Field α)) : Prop :=
  ∀ field ∈ fields, ∀ line node a b, field.set line node a = .ok b → ∀ inner, ¬node.Opens inner

/-- A record is given by a table or by an array; a row of tables is refused if it has any. -/
theorem record_cases (refuses : RefusesTables fields) (nonempty : fields ≠ [])
    (sound : node.Sound valid) (done : record expected fields start line node = .ok r) :
    (∃ origin own inner, node = .table origin own inner ∧ setEntries fields start inner = .ok r) ∨
      (∃ own elements, node = .array own elements) ∨ (node = .tableArray [] ∧ r = start) := by
  cases node with
  | table origin own inner => exact .inl ⟨origin, own, inner, rfl, done⟩
  | array own elements => exact .inr (.inl ⟨own, elements, rfl⟩)
  | scalar own s => cases s <;> cases done
  | tableArray rows =>
      obtain ⟨field, more, rfl⟩ := List.exists_cons_of_ne_nil nonempty
      cases rows with
      | nil =>
          cases done
          exact .inr (.inr ⟨rfl, rfl⟩)
      | cons row rows =>
          obtain ⟨b, set, _⟩ := bind_eq_ok done
          cases sound with
          | tableArray isTable =>
              have table := isTable row List.mem_cons_self
              cases row with
              | table origin own inner =>
                  exact absurd (.table origin own inner)
                    (refuses field List.mem_cons_self _ _ _ _ set inner)
              | _ => cases table

theorem name_mem_of_find? {field : Field α} (found : fields.find? (·.name == name) = some field) :
    name ∈ fields.map Field.name := by
  refine List.mem_map.mpr ⟨field, List.mem_of_find?_eq_some found, ?_⟩
  simpa using List.find?_some found

theorem holds_record (refuses : RefusesTables fields) (nonempty : fields ≠ [])
    (sound : node.Sound valid) (done : record expected fields start line node = .ok r)
    (opens : node.Opens inner) {held : Node} (holds : inner.Holds key held path) :
    (∃ origin own, node = .table origin own inner) ∧ path = [] ∧
      Entries.lookup? inner key.name = some (key, held) ∧ key.name ∈ fields.map Field.name := by
  rcases record_cases refuses nonempty sound done with
    ⟨origin, own, inner', rfl, set⟩ | ⟨own, elements, rfl⟩ | ⟨rfl, _⟩
  · cases opens
    refine ⟨⟨origin, own, rfl⟩, ?_⟩
    cases holds with
    | here found =>
        obtain ⟨field, _, _, isField, _⟩ := setEntries_mem set (Entries.mem_of_lookup? found)
        exact ⟨rfl, found, name_mem_of_find? isField⟩
    | inside found opens' _ =>
        obtain ⟨key', entry, _⟩ := Entries.lookup?_of_find? found
        obtain ⟨field, b, c, isField, set⟩ := setEntries_mem set (Entries.mem_of_lookup? entry)
        exact absurd opens' (refuses field (List.mem_of_find?_eq_some isField) _ _ _ _ set _)
  · cases opens
  · cases opens with
    | row member => cases member

def TableRead (entries : Entries) (table : String) (fields : List (Field α)) (start r : α) : Prop :=
  (entries.find? table = none ∧ r = start) ∨
    ∃ node expected line, entries.find? table = some node ∧
      record expected fields start line node = .ok r

def setting? (entries : Entries) (table field : String) : Option (Key × Node) :=
  match entries.find? table with
  | some (.table _ _ inner) => Entries.lookup? inner field
  | _ => none

structure IsField (fields : List (Field α)) (name : String) (read : Nat → Node → Except LoadError β)
    (get : α → β) : Prop where
  refuses : RefusesTables fields
  nonempty : fields ≠ []
  others : OnlyChangedBy fields name get
  own : ∀ field, fields.find? (·.name == name) = some field → ∀ line node a b,
    field.set line node a = .ok b → read line node = .ok (get b)

/-- A field without its default value has the value that is written for its key, unless its table is
given as an array. -/
theorem IsField.value {read : Nat → Node → Except LoadError β} {get : α → β} {table : String}
    (isField : IsField fields name read get) (sound : entries.Sound valid)
    (typed : TableRead entries table fields start r) (changed : get r ≠ get start) :
    (∃ key node, setting? entries table name = some (key, node) ∧ valid key ∧
      read key.line node = .ok (get r)) ∨
    (setting? entries table name = none ∧
      ∃ own elements, entries.find? table = some (.array own elements)) := by
  rcases typed with ⟨_, rfl⟩ | ⟨node, expected, line, found, done⟩
  · exact absurd rfl changed
  · have nodeSound := sound.of_find? found
    rcases record_cases isField.refuses isField.nonempty nodeSound done with
      ⟨origin, own, inner, rfl, set⟩ | ⟨own, elements, rfl⟩ | ⟨rfl, rfl⟩
    · have innerSound := Entries.Sound.of_table nodeSound
      have here : setting? entries table name = Entries.lookup? inner name := by
        rw [setting?, found]
      cases entry : Entries.lookup? inner name with
      | none =>
          have missing := Entries.name_notMem entry
          exact absurd (get_setEntries_of_missing isField.others missing set) changed
      | some entry' =>
          obtain ⟨key, value⟩ := entry'
          obtain ⟨field, b, c, found', set', same⟩ :=
            get_setEntries isField.others innerSound.distinct set entry
          refine .inl ⟨key, value, here.trans entry, ?_, ?_⟩
          · exact innerSound.keys _ (Entries.mem_of_lookup? entry)
          · rw [same]
            exact isField.own field found' _ _ _ _ set'
    · refine .inr ⟨?_, own, elements, found⟩
      rw [setting?, found]
    · exact absurd rfl changed

end Records

/-! ### The fields of settings -/

section Settings

variable {α β : Type} {entries : Entries} {s : Settings} {key : Key} {node : Node}

def Closed (read : Nat → Node → Except LoadError β) : Prop :=
  ∀ line node v, read line node = .ok v → ∀ inner, ¬node.Opens inner

theorem natural_closed (bound : Nat) (expected : String) : Closed (natural bound expected) := by
  intro line node v read inner opens
  cases opens <;> cases read

theorem boolean_closed : Closed boolean := by
  intro line node v read inner opens
  cases opens <;> cases read

theorem character_closed : Closed character := by
  intro line node v read inner opens
  cases opens <;> cases read

theorem string_closed : Closed Settings.string := by
  intro line node v read inner opens
  cases opens <;> cases read

variable {name : String} {read : Nat → Node → Except LoadError β} {change : α → β → α}

theorem of_set {line : Nat} {a b : α} (set : (Field.of name read change).set line node a = .ok b) :
    ∃ v, read line node = .ok v ∧ b = change a v := by
  have set : (read line node).map (change a) = .ok b := set
  cases result : read line node with
  | error e =>
      rw [result] at set
      cases set
  | ok v =>
      rw [result] at set
      cases set
      exact ⟨v, rfl, rfl⟩

theorem refuses_nil : RefusesTables ([] : List (Field α)) :=
  nofun

theorem refuses_cons {fields : List (Field α)} (closed : Closed read)
    (more : RefusesTables fields) : RefusesTables (.of name read change :: fields) := by
  intro field member line node a b set
  rcases List.mem_cons.mp member with rfl | member
  · obtain ⟨v, found, _⟩ := of_set set
    exact closed line node v found
  · exact more field member line node a b set

theorem formatFields_refuse : RefusesTables formatFields :=
  refuses_cons character_closed <| refuses_cons character_closed <|
    refuses_cons (natural_closed _ _) <| refuses_cons string_closed <| refuses_cons string_closed <|
    refuses_cons string_closed <| refuses_cons string_closed <| refuses_cons string_closed refuses_nil

theorem evalFields_refuse : RefusesTables evalFields :=
  refuses_cons (natural_closed _ _) <| refuses_cons boolean_closed <| refuses_cons character_closed <|
    refuses_cons boolean_closed <| refuses_cons boolean_closed <|
    refuses_cons (natural_closed _ _) refuses_nil

section OnlyChangedBy

variable {γ : Type} {get : α → γ} {fields : List (Field α)} {other : String}

theorem onlyChangedBy_nil : OnlyChangedBy ([] : List (Field α)) name get :=
  nofun

theorem onlyChangedBy_own (more : OnlyChangedBy fields name get) :
    OnlyChangedBy (.of name read change :: fields) name get := by
  intro field member different
  rcases List.mem_cons.mp member with rfl | member
  · exact absurd rfl different
  · exact more field member different

theorem onlyChangedBy_other (keeps : ∀ a v, get (change a v) = get a)
    (more : OnlyChangedBy fields other get) :
    OnlyChangedBy (.of name read change :: fields) other get := by
  intro field member different line node a b set
  rcases List.mem_cons.mp member with rfl | member
  · obtain ⟨v, _, rfl⟩ := of_set set
    exact keeps a v
  · exact more field member different line node a b set

end OnlyChangedBy

theorem isField_of {fields : List (Field α)} {get : α → β} (refuses : RefusesTables fields)
    (others : OnlyChangedBy fields name get)
    (own : fields.find? (·.name == name) = some (.of name read change))
    (changes : ∀ a v, get (change a v) = v) : IsField fields name read get where
  refuses := refuses
  nonempty := by
    rintro rfl
    cases own
  others := others
  own field found line node a b set := by
    rw [own] at found
    cases found
    obtain ⟨v, result, rfl⟩ := of_set set
    rw [changes]
    exact result

theorem isField_radix : IsField evalFields "radix" (natural wordBound "u32") EvalOptions.radix := by
  refine isField_of evalFields_refuse ?_ rfl fun _ _ => rfl
  apply onlyChangedBy_own
  iterate 5 refine onlyChangedBy_other (fun _ _ => rfl) ?_
  exact onlyChangedBy_nil

theorem isField_groupSize :
    IsField formatFields "group_size" (natural longWordBound "usize") FormatOptions.groupSize := by
  refine isField_of formatFields_refuse ?_ rfl fun _ _ => rfl
  iterate 2 refine onlyChangedBy_other (fun _ _ => rfl) ?_
  apply onlyChangedBy_own
  iterate 5 refine onlyChangedBy_other (fun _ _ => rfl) ?_
  exact onlyChangedBy_nil

/-! ### The two tables -/

theorem record_of_map {δ : Type} {result : Except LoadError δ} {f : δ → Settings}
    (done : result.map f = .ok s) : ∃ r, result = .ok r ∧ s = f r := by
  cases result with
  | error e => cases done
  | ok r =>
      cases done
      exact ⟨r, rfl, rfl⟩

/-- A table of the settings that is read as a record. -/
theorem tableRead_of {fields : List (Field α)} {get : Settings → α} {table : String}
    (others : OnlyChangedBy tables table get)
    (own : ∀ field, tables.find? (·.name == table) = some field → ∀ line node a b,
      field.set line node a = .ok b → ∃ expected, record expected fields (get {}) line node = .ok (get b))
    (distinct : (entries.map (·.1.name)).Nodup) (done : setEntries tables {} entries = .ok s) :
    TableRead entries table fields (get {}) (get s) := by
  cases entry : entries.lookup? table with
  | none =>
      exact .inl ⟨Option.map_eq_none_iff.mpr entry,
        get_setEntries_of_missing others (Entries.name_notMem entry) done⟩
  | some entry' =>
      obtain ⟨key, node⟩ := entry'
      obtain ⟨field, b, c, isField, set, same⟩ := get_setEntries others distinct done entry
      obtain ⟨expected, read⟩ := own field isField _ _ _ _ set
      refine .inr ⟨node, expected, key.line, ?_, ?_⟩
      · rw [Entries.find?_eq, entry]
        rfl
      · rw [same]
        exact read

theorem eval_read (distinct : (entries.map (·.1.name)).Nodup)
    (done : setEntries tables {} entries = .ok s) :
    TableRead entries "eval" evalFields {} s.eval := by
  refine tableRead_of ?_ ?_ distinct done
  · intro field member different line node a b set
    simp only [tables, List.mem_cons, List.not_mem_nil, or_false] at member
    rcases member with rfl | rfl
    · obtain ⟨f, _, rfl⟩ := record_of_map set
      rfl
    · exact absurd rfl different
  · intro field isField line node a b set
    cases isField
    obtain ⟨o, read, rfl⟩ := record_of_map set
    exact ⟨_, read⟩

theorem format_read (distinct : (entries.map (·.1.name)).Nodup)
    (done : setEntries tables {} entries = .ok s) :
    TableRead entries "format" formatFields {} s.format := by
  refine tableRead_of ?_ ?_ distinct done
  · intro field member different line node a b set
    simp only [tables, List.mem_cons, List.not_mem_nil, or_false] at member
    rcases member with rfl | rfl
    · exact absurd rfl different
    · obtain ⟨o, _, rfl⟩ := record_of_map set
      rfl
  · intro field isField line node a b set
    cases isField
    obtain ⟨f, read, rfl⟩ := record_of_map set
    exact ⟨_, read⟩

def settingNames : List (String × String) :=
  formatFields.map (fun field => ("format", field.name)) ++
    evalFields.map fun field => ("eval", field.name)

theorem holds_table {fields : List (Field α)} {start r : α} {expected table : String} {line : Nat}
    {valid : Key → Prop} {path : List String} {inner : Entries} {node held : Node}
    (refuses : RefusesTables fields) (nonempty : fields ≠ [])
    (names : ∀ field ∈ fields, (table, field.name) ∈ settingNames)
    (found : entries.find? table = some node) (sound : node.Sound valid)
    (read : record expected fields start line node = .ok r) (opens : node.Opens inner)
    (holds : inner.Holds key held path) :
    path = [] ∧ (table, key.name) ∈ settingNames ∧
      setting? entries table key.name = some (key, held) := by
  obtain ⟨⟨origin, own, rfl⟩, rfl, there, name⟩ :=
    holds_record refuses nonempty sound read opens holds
  cases opens
  obtain ⟨field, member, same⟩ := List.mem_map.mp name
  refine ⟨rfl, same ▸ names field member, ?_⟩
  rw [setting?, found]
  exact there

/-- A document with settings holds its tables and in them the fields. -/
theorem holds_settings {valid : Key → Prop} {path : List String} (sound : entries.Sound valid)
    (done : setEntries tables {} entries = .ok s) (holds : entries.Holds key node path) :
    (path = [] ∧ ∃ field, (key.name, field) ∈ settingNames) ∨
      ∃ table, path = [table] ∧ (table, key.name) ∈ settingNames ∧
        setting? entries table key.name = some (key, node) := by
  cases holds with
  | here found =>
      obtain ⟨field, _, _, isField, _⟩ := setEntries_mem done (Entries.mem_of_lookup? found)
      have name := name_mem_of_find? isField
      simp only [tables, List.map_cons, List.map_nil, List.mem_cons, List.not_mem_nil,
        or_false] at name
      refine .inl ⟨rfl, ?_⟩
      rcases name with name | name <;> rw [name]
      · exact ⟨"decimal_point", by simp [settingNames, formatFields, Field.of]⟩
      · exact ⟨"radix", by simp [settingNames, evalFields, Field.of]⟩
  | @inside table rest node' _ inner found opens holds =>
      obtain ⟨key', entry, rfl⟩ := Entries.lookup?_of_find? found
      obtain ⟨field, a, b, isField, set⟩ := setEntries_mem done (Entries.mem_of_lookup? entry)
      have own : field.name = key'.name := by simpa using List.find?_some isField
      have member := List.mem_of_find?_eq_some isField
      simp only [tables, List.mem_cons, List.not_mem_nil, or_false] at member
      right
      rcases member with rfl | rfl
      · obtain ⟨f, read, _⟩ := record_of_map set
        have names : ∀ field ∈ formatFields, (key'.name, field.name) ∈ settingNames := by
          intro field member
          rw [← own]
          exact List.mem_append_left _ (List.mem_map_of_mem member)
        obtain ⟨rfl, there⟩ := holds_table formatFields_refuse (List.cons_ne_nil _ _) names found
          (sound.of_find? found) read opens holds
        exact ⟨key'.name, rfl, there⟩
      · obtain ⟨o, read, _⟩ := record_of_map set
        have names : ∀ field ∈ evalFields, (key'.name, field.name) ∈ settingNames := by
          intro field member
          rw [← own]
          exact List.mem_append_right _ (List.mem_map_of_mem member)
        obtain ⟨rfl, there⟩ := holds_table evalFields_refuse (List.cons_ne_nil _ _) names found
          (sound.of_find? found) read opens holds
        exact ⟨key'.name, rfl, there⟩

end Settings

end TemplateCalc.Settings
