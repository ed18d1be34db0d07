import Mathlib.Data.List.Basic
import Mathlib.Data.List.Nodup
import Mathlib.Data.Option.Basic
import TemplateCalc.Toml.Node

/-!
What becomes of the entries of a document while it grows.

Statements change the tree of a document only by adding keys that are new and by entering tables on the
way. So the names in a table stay distinct, and a value that has been read stays where it is until the
end. Both are shown first of a change at the end of a path, then of the drafts.
-/

set_option autoImplicit false

namespace TemplateCalc.Toml

theorem of_guard {p : Prop} [Decidable p] {u : Unit} (passed : (guard p : Option Unit) = some u) :
    p := by
  by_cases holds : p
  · exact holds
  · have stopped : (guard p : Option Unit) = none := if_neg holds
    rw [stopped] at passed
    cases passed

/-! ### Entries -/

namespace Entries

variable {entries : Entries} {key : Key} {name : String} {node : Node}

def lookup? (entries : Entries) (name : String) : Option (Key × Node) :=
  List.find? (fun (k, _) => k.name == name) entries

theorem find?_eq (entries : Entries) (name : String) :
    entries.find? name = (entries.lookup? name).map (·.2) :=
  rfl

theorem lookup?_of_find? (found : entries.find? name = some node) :
    ∃ key, entries.lookup? name = some (key, node) ∧ key.name = name := by
  obtain ⟨⟨key, node'⟩, entry, same⟩ := Option.map_eq_some_iff.mp found
  cases same
  exact ⟨key, entry, by simpa using List.find?_some entry⟩

theorem lookup?_eq_none (missing : entries.find? name = none) : entries.lookup? name = none :=
  Option.map_eq_none_iff.mp missing

theorem name_of_lookup? (found : entries.lookup? name = some (key, node)) : key.name = name := by
  simpa using List.find?_some found

theorem mem_of_lookup? (found : entries.lookup? name = some (key, node)) : (key, node) ∈ entries :=
  List.mem_of_find?_eq_some found

theorem name_notMem (missing : entries.lookup? name = none) : name ∉ entries.map (·.1.name) := by
  intro member
  obtain ⟨entry, member, same⟩ := List.mem_map.mp member
  exact List.find?_eq_none.mp missing entry member (by simpa using same)

theorem lookup?_add (entries : Entries) (key : Key) (node : Node) (name : String) :
    (entries.add key node).lookup? name =
      (entries.lookup? name).or (if key.name = name then some (key, node) else none) := by
  unfold add lookup?
  rw [List.find?_append]
  by_cases same : key.name = name <;> simp [same]

theorem lookup?_add_self (missing : entries.find? key.name = none) :
    (entries.add key node).lookup? key.name = some (key, node) := by
  rw [lookup?_add, lookup?_eq_none missing, if_pos rfl, Option.none_or]

theorem lookup?_replace (entries : Entries) (other : String) (node : Node) (name : String) :
    (entries.replace other node).lookup? name =
      (entries.lookup? name).map fun (k, v) => if k.name == other then (k, node) else (k, v) := by
  unfold replace lookup?
  rw [List.find?_map]
  congr 2
  funext ⟨k, v⟩
  by_cases same : k.name = other <;>
    simp only [Function.comp_apply, beq_iff_eq, same, if_true, if_false]

theorem lookup?_replace_of_ne (entries : Entries) (node : Node) {other : String}
    (different : name ≠ other) : (entries.replace other node).lookup? name = entries.lookup? name := by
  rw [lookup?_replace]
  cases found : entries.lookup? name with
  | none => rfl
  | some entry =>
      obtain ⟨key, old⟩ := entry
      have own : key.name = name := name_of_lookup? found
      simp [own, different]

theorem find?_replace_self {old : Node} (found : entries.find? name = some old) (node : Node) :
    (entries.replace name node).find? name = some node := by
  obtain ⟨key, entry, own⟩ := lookup?_of_find? found
  rw [find?_eq, lookup?_replace, entry]
  simp [own]

theorem lookup?_remove_of_ne (entries : Entries) {other : String} (different : name ≠ other) :
    (entries.remove other).lookup? name = entries.lookup? name := by
  unfold remove lookup?
  rw [List.find?_filter]
  congr 1
  funext ⟨k, v⟩
  by_cases same : k.name = name
  · simp [same, different]
  · simp [same]

end Entries

/-! ### Sound trees -/

def Node.IsTable : Node → Prop
  | .table _ _ _ => True
  | _ => False

inductive Node.Sound (valid : Key → Prop) : Node → Prop where
  | scalar (line : Nat) (s : Scalar) : Sound valid (.scalar line s)
  | array {line : Nat} {elements : List Node} (inside : ∀ node ∈ elements, Sound valid node) :
      Sound valid (.array line elements)
  | table {origin : Origin} {line : Option Nat} {entries : Entries}
      (distinct : (entries.map (·.1.name)).Nodup) (keys : ∀ entry ∈ entries, valid entry.1)
      (inside : ∀ entry ∈ entries, Sound valid entry.2) : Sound valid (.table origin line entries)
  | tableArray {tables : List Node} (rows : ∀ table ∈ tables, table.IsTable)
      (inside : ∀ table ∈ tables, Sound valid table) : Sound valid (.tableArray tables)

structure Entries.Sound (valid : Key → Prop) (entries : Entries) : Prop where
  distinct : (entries.map (·.1.name)).Nodup
  keys : ∀ entry ∈ entries, valid entry.1
  inside : ∀ entry ∈ entries, entry.2.Sound valid

section Sound

variable {valid : Key → Prop} {entries : Entries} {key : Key} {node : Node} {name : String}

theorem Entries.Sound.table (sound : entries.Sound valid) (origin : Origin) (line : Option Nat) :
    (Node.table origin line entries).Sound valid :=
  .table sound.distinct sound.keys sound.inside

theorem Entries.Sound.of_table {origin : Origin} {line : Option Nat}
    (sound : (Node.table origin line entries).Sound valid) : entries.Sound valid := by
  cases sound with
  | table distinct keys inside => exact ⟨distinct, keys, inside⟩

/-- A row of sound tables is sound with one more of them at its end. -/
theorem Node.Sound.row {tables : List Node} (old : (Node.tableArray tables).Sound valid)
    (origin : Origin) (line : Option Nat) (last : entries.Sound valid) :
    (Node.tableArray (tables ++ [.table origin line entries])).Sound valid := by
  cases old with
  | tableArray rows inside =>
      constructor
      · intro table member
        rcases List.mem_append.mp member with member | member
        · exact rows table member
        · rw [List.mem_singleton.mp member]
          trivial
      · intro table member
        rcases List.mem_append.mp member with member | member
        · exact inside table member
        · rw [List.mem_singleton.mp member]
          exact last.table _ _

theorem Entries.Sound.nil (valid : Key → Prop) : Entries.Sound valid [] where
  distinct := List.nodup_nil
  keys := nofun
  inside := nofun

theorem Entries.Sound.of_find? (sound : entries.Sound valid) (found : entries.find? name = some node) :
    node.Sound valid := by
  obtain ⟨key, entry, _⟩ := Entries.lookup?_of_find? found
  exact sound.inside _ (Entries.mem_of_lookup? entry)

theorem Entries.Sound.add (sound : entries.Sound valid) (missing : entries.find? key.name = none)
    (isValid : valid key) (inside : node.Sound valid) : (entries.add key node).Sound valid where
  distinct := by
    have new : key.name ∉ entries.map (·.1.name) :=
      Entries.name_notMem (Entries.lookup?_eq_none missing)
    rw [Entries.add, List.map_append]
    exact sound.distinct.append (List.nodup_singleton _) (by simpa using new)
  keys entry member := by
    rcases List.mem_append.mp member with member | member
    · exact sound.keys entry member
    · rw [List.mem_singleton.mp member]
      exact isValid
  inside entry member := by
    rcases List.mem_append.mp member with member | member
    · exact sound.inside entry member
    · rw [List.mem_singleton.mp member]
      exact inside

theorem Entries.Sound.replace (sound : entries.Sound valid) (inside : node.Sound valid) :
    (entries.replace name node).Sound valid where
  distinct := by
    have names : (entries.replace name node).map (·.1.name) = entries.map (·.1.name) := by
      rw [Entries.replace, List.map_map]
      apply List.map_congr_left
      rintro ⟨k, v⟩ -
      by_cases same : k.name = name <;> simp [same]
    rw [names]
    exact sound.distinct
  keys entry member := by
    obtain ⟨⟨k, v⟩, old, rfl⟩ := List.mem_map.mp member
    dsimp only
    split
    · exact sound.keys (k, v) old
    · exact sound.keys (k, v) old
  inside entry member := by
    obtain ⟨⟨k, v⟩, old, rfl⟩ := List.mem_map.mp member
    dsimp only
    split
    · exact inside
    · exact sound.inside (k, v) old

theorem Entries.Sound.remove (sound : entries.Sound valid) (name : String) :
    (entries.remove name).Sound valid where
  distinct := sound.distinct.sublist (List.filter_sublist.map _)
  keys entry member := sound.keys entry (List.mem_of_mem_filter member)
  inside entry member := sound.inside entry (List.mem_of_mem_filter member)

end Sound

/-! ### Held values -/

inductive Node.Opens : Node → Entries → Prop where
  | table (origin : Origin) (line : Option Nat) (entries : Entries) :
      Opens (.table origin line entries) entries
  | row {tables : List Node} {origin : Origin} {line : Option Nat} {entries : Entries}
      (member : .table origin line entries ∈ tables) : Opens (.tableArray tables) entries

inductive Entries.Holds (key : Key) (node : Node) : List String → Entries → Prop where
  | here {entries : Entries} (found : entries.lookup? key.name = some (key, node)) :
      Holds key node [] entries
  | inside {name : String} {path : List String} {table : Node} {entries inner : Entries}
      (found : entries.find? name = some table) (opens : table.Opens inner)
      (holds : Holds key node path inner) : Holds key node (name :: path) entries

/-- What an assignment can give to a key. Its braces cannot be opened again. -/
def Node.IsValue : Node → Prop
  | .scalar _ _ | .array _ _ | .table .braces _ _ => True
  | .table _ _ _ | .tableArray _ => False

section Holds

variable {key : Key} {node : Node} {entries : Entries} {path : List String} {name : String}

theorem Entries.Holds.add (holds : entries.Holds key node path) (key' : Key) (node' : Node) :
    (entries.add key' node').Holds key node path := by
  cases holds with
  | here found =>
      apply Entries.Holds.here
      rw [Entries.lookup?_add, found, Option.some_or]
  | inside found opens holds =>
      obtain ⟨entry, found, _⟩ := Entries.lookup?_of_find? found
      refine .inside ?_ opens holds
      rw [Entries.find?_eq, Entries.lookup?_add, found, Option.some_or, Option.map_some]

/-- Where the entries with other names stay, all that is held either stays or is in the table under
the name. -/
theorem Entries.Holds.elsewhere {entries' : Entries} {table : Node} (value : node.IsValue)
    (noValue : ¬table.IsValue) (found : entries.find? name = some table)
    (same : ∀ other, other ≠ name → entries'.lookup? other = entries.lookup? other)
    (holds : entries.Holds key node path) :
    entries'.Holds key node path ∨
      ∃ rest inner, path = name :: rest ∧ table.Opens inner ∧ inner.Holds key node rest := by
  cases holds with
  | here here =>
      left
      apply Entries.Holds.here
      rw [same, here]
      rintro rfl
      rw [Entries.find?_eq, here] at found
      cases found
      exact noValue value
  | @inside name' rest table' _ inner found' opens holds =>
      by_cases different : name' = name
      · subst different
        rw [found] at found'
        cases found'
        exact .inr ⟨rest, inner, rfl, opens, holds⟩
      · left
        refine .inside ?_ opens holds
        rw [Entries.find?_eq, same name' different]
        exact found'

end Holds

/-! ### Changes at the end of a path -/

/-- A table that a path leads into, and the table with other entries in its place. Of a row it is the
last one. -/
inductive Entered : Node → Entries → (Entries → Node) → Prop where
  | table {origin : Origin} (line : Option Nat) (inner : Entries) (other : origin ≠ .braces) :
      Entered (.table origin line inner) inner (.table origin line)
  | row (tables : List Node) (origin : Origin) (line : Option Nat) (inner : Entries) :
      Entered (.tableArray (tables ++ [.table origin line inner])) inner
        fun entries => .tableArray (tables ++ [.table origin line entries])

namespace Entered

variable {table : Node} {inner : Entries} {rebuilt : Entries → Node} {valid : Key → Prop}

theorem not_isValue (entered : Entered table inner rebuilt) : ¬table.IsValue := by
  cases entered with
  | @table origin line inner other => cases origin <;> simp_all [Node.IsValue]
  | row => exact id

theorem opens (entered : Entered table inner rebuilt) (entries : Entries) :
    (rebuilt entries).Opens entries := by
  cases entered with
  | table => exact .table _ _ _
  | row => exact .row (List.mem_append_right _ (List.mem_singleton_self _))

theorem opens_cases {entries : Entries} (entered : Entered table inner rebuilt)
    (opens : table.Opens entries) (entries' : Entries) :
    entries = inner ∨ (rebuilt entries').Opens entries := by
  cases entered with
  | table =>
      cases opens
      exact .inl rfl
  | row tables =>
      cases opens with
      | row member =>
          rcases List.mem_append.mp member with member | member
          · exact .inr (.row (List.mem_append_left _ member))
          · cases List.mem_singleton.mp member
            exact .inl rfl

theorem sound (entered : Entered table inner rebuilt) (whole : table.Sound valid) :
    inner.Sound valid ∧ ∀ entries : Entries, entries.Sound valid → (rebuilt entries).Sound valid := by
  cases entered with
  | table => exact ⟨.of_table whole, fun entries sound => sound.table _ _⟩
  | row tables =>
      cases whole with
      | tableArray rows inside =>
          have front : (Node.tableArray tables).Sound valid :=
            .tableArray (fun table member => rows table (List.mem_append_left _ member))
              fun table member => inside table (List.mem_append_left _ member)
          exact ⟨.of_table (inside _ (List.mem_append_right _ (List.mem_singleton_self _))),
            fun entries sound => front.row _ _ sound⟩

end Entered

section ChangeAt

variable {α : Type} {created : Origin} {change : Origin → Entries → Option (α × Entries)}
  {key : Key} {way : List Key} {origin : Origin} {entries entries' : Entries} {a : α}

/-- A step on the way either creates the table or enters it. -/
theorem changeAt_cons
    (changed : changeAt created change (key :: way) origin entries = some (a, entries')) :
    (∃ inner, entries.find? key.name = none ∧
      changeAt created change way created [] = some (a, inner) ∧
      entries' = entries.add key (.table created none inner)) ∨
    ∃ table inner rebuilt origin' inner', entries.find? key.name = some table ∧
      Entered table inner rebuilt ∧ changeAt created change way origin' inner = some (a, inner') ∧
      entries' = entries.replace key.name (rebuilt inner') := by
  rw [changeAt] at changed
  -- nothing under the name, a table, a row of tables, or a value
  split at changed
  · rename_i missing
    obtain ⟨⟨a, inner⟩, inside, same⟩ := Option.bind_eq_some_iff.mp changed
    cases same
    exact .inl ⟨inner, missing, inside, rfl⟩
  · rename_i origin' line inner found
    obtain ⟨_, allowed, changed⟩ := Option.bind_eq_some_iff.mp changed
    obtain ⟨⟨a, inner'⟩, inside, same⟩ := Option.bind_eq_some_iff.mp changed
    cases same
    have other : origin' ≠ .braces := by
      rintro rfl
      rcases of_guard allowed with same | same | ⟨same, _⟩ <;> cases same
    exact .inr ⟨_, inner, _, origin', inner', found, .table line inner other, inside, rfl⟩
  · rename_i tables found
    split at changed
    · rename_i origin' line inner last
      obtain ⟨⟨a, inner'⟩, inside, same⟩ := Option.bind_eq_some_iff.mp changed
      cases same
      have parts : tables = tables.dropLast ++ [.table origin' line inner] :=
        (List.dropLast_append_getLast? _ last).symm
      rw [parts] at found
      exact .inr ⟨_, inner, _, origin', inner', found, .row _ origin' line inner, inside, rfl⟩
    · cases changed
  · cases changed

/-- A change that keeps its table sound keeps the whole document sound. -/
theorem sound_changeAt {valid : Key → Prop} {given : α → Prop}
    (kept : ∀ origin entries a entries', change origin entries = some (a, entries') →
      entries.Sound valid → entries'.Sound valid ∧ given a)
    (keys : ∀ key ∈ way, valid key)
    (changed : changeAt created change way origin entries = some (a, entries'))
    (sound : entries.Sound valid) : entries'.Sound valid ∧ given a := by
  induction way generalizing origin entries entries' with
  | nil => exact kept origin entries a entries' changed sound
  | cons key way ih =>
      have keys' (key' : Key) (member : key' ∈ way) : valid key' :=
        keys key' (List.mem_cons_of_mem _ member)
      rcases changeAt_cons changed with ⟨inner, missing, inside, rfl⟩ |
        ⟨table, inner, rebuilt, origin', inner', found, entered, inside, rfl⟩
      · obtain ⟨innerSound, isGiven⟩ := ih keys' inside (.nil valid)
        exact ⟨sound.add missing (keys key List.mem_cons_self) (innerSound.table _ _), isGiven⟩
      · obtain ⟨oldSound, rebuild⟩ := entered.sound (sound.of_find? found)
        obtain ⟨innerSound, isGiven⟩ := ih keys' inside oldSound
        exact ⟨sound.replace (rebuild inner' innerSound), isGiven⟩

/-- A change that takes values out of its table at most, and gives them back, loses no value of the
document. -/
theorem holds_changeAt {held : Key} {node : Node} (moved : List String → α → Prop)
    (value : node.IsValue)
    (kept : ∀ origin entries a entries' path, change origin entries = some (a, entries') →
      entries.Holds held node path → entries'.Holds held node path ∨ moved path a)
    (changed : changeAt created change way origin entries = some (a, entries')) {path : List String}
    (holds : entries.Holds held node path) :
    entries'.Holds held node path ∨
      ∃ rest, path = way.map (·.name) ++ rest ∧ moved rest a := by
  induction way generalizing origin entries entries' path with
  | nil =>
      rcases kept origin entries a entries' path changed holds with holds | isMoved
      · exact .inl holds
      · exact .inr ⟨path, rfl, isMoved⟩
  | cons key way ih =>
      rcases changeAt_cons changed with ⟨inner, missing, inside, rfl⟩ |
        ⟨table, inner, rebuilt, origin', inner', found, entered, inside, rfl⟩
      · exact .inl (holds.add key _)
      · rcases holds.elsewhere value entered.not_isValue found
            fun _ => Entries.lookup?_replace_of_ne entries (rebuilt inner') with
          holds | ⟨rest, opened, rfl, opens, holds⟩
        · exact .inl holds
        · have here := Entries.find?_replace_self found (rebuilt inner')
          rcases entered.opens_cases opens inner' with rfl | opens
          · rcases ih inside holds with holds | ⟨rest', rfl, isMoved⟩
            · exact .inl (.inside here (entered.opens inner') holds)
            · exact .inr ⟨rest', rfl, isMoved⟩
          · exact .inl (.inside here opens holds)

/-- The changed table is at the end of the path. -/
theorem holds_changed
    (changed : changeAt created change way origin entries = some (a, entries')) :
    ∃ origin' inner inner', change origin' inner = some (a, inner') ∧
      ∀ held node path, inner'.Holds held node path →
        entries'.Holds held node (way.map (·.name) ++ path) := by
  induction way generalizing origin entries entries' with
  | nil => exact ⟨origin, entries, entries', changed, fun _ _ _ holds => holds⟩
  | cons key way ih =>
      rcases changeAt_cons changed with ⟨inner, missing, inside, rfl⟩ |
        ⟨table, inner, rebuilt, origin', inner', found, entered, inside, rfl⟩
      · obtain ⟨origin₀, inner₀, inner₁, step, reached⟩ := ih inside
        refine ⟨origin₀, inner₀, inner₁, step, ?_⟩
        intro held node path holds
        refine .inside ?_ (.table created none inner) (reached held node path holds)
        rw [Entries.find?_eq, Entries.lookup?_add_self missing]
        rfl
      · obtain ⟨origin₀, inner₀, inner₁, step, reached⟩ := ih inside
        refine ⟨origin₀, inner₀, inner₁, step, ?_⟩
        intro held node path holds
        exact .inside (Entries.find?_replace_self found _) (entered.opens inner')
          (reached held node path holds)

end ChangeAt

end TemplateCalc.Toml
