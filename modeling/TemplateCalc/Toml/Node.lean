/-!
TOML documents as trees, and how statements build them.

Every key knows the line on which it is written, and every value that of its own beginning. A table
remembers how it came about, because that decides what may still be added to it.
-/

set_option autoImplicit false

namespace TemplateCalc.Toml

structure Key where
  name : String
  line : Nat
  deriving DecidableEq, Repr

/-- A value without parts. What a date says is of no interest here. -/
inductive Scalar where
  | string (s : String)
  | integer (n : Int64)
  | float (x : Float)
  | boolean (b : Bool)
  | datetime

/-- How a table came about: by a header of its own, on the way to the table of a header, by a key with
dots, or as a value in braces. -/
inductive Origin where
  | header | onTheWay | dotted | braces
  deriving DecidableEq, Repr

inductive Node where
  | scalar (line : Nat) (s : Scalar)
  | array (line : Nat) (elements : List Node)
  | table (origin : Origin) (line : Option Nat) (entries : List (Key × Node))
  | tableArray (tables : List Node)

abbrev Entries := List (Key × Node)

def Node.line? : Node → Option Nat
  | .scalar line _ => some line
  | .array line _ => some line
  | .table _ line _ => line
  | .tableArray (.table _ line _ :: _) => line
  | .tableArray _ => none

namespace Entries

def find? (entries : Entries) (name : String) : Option Node :=
  (List.find? (fun (k, _) => k.name == name) entries).map (·.2)

def replace (entries : Entries) (name : String) (node : Node) : Entries :=
  entries.map fun (k, v) => if k.name == name then (k, node) else (k, v)

def remove (entries : Entries) (name : String) : Entries :=
  entries.filter fun (k, _) => k.name != name

def add (entries : Entries) (key : Key) (node : Node) : Entries :=
  entries ++ [(key, node)]

end Entries

/-- Changes the table at the end of a path, and gives back what the change gives. Tables that are
missing on the way are created with the given origin. A path leads through tables and through the last
table of a row, not through values; one that creates tables with dots only leads through tables that
have no header of their own. -/
def changeAt {α : Type} (created : Origin) (change : Origin → Entries → Option (α × Entries)) :
    List Key → Origin → Entries → Option (α × Entries)
  | [], origin, entries => change origin entries
  | key :: path, _, entries =>
    match entries.find? key.name with
    | none => do
      let (a, inner) ← changeAt created change path created []
      return (a, entries.add key (.table created none inner))
    | some (.table origin line inner) => do
      guard (origin = .onTheWay ∨ origin = .dotted ∨ (origin = .header ∧ created ≠ .dotted))
      let (a, inner) ← changeAt created change path origin inner
      return (a, entries.replace key.name (.table origin line inner))
    | some (.tableArray tables) =>
      match tables.getLast? with
      | some (.table origin line inner) => do
        let (a, inner) ← changeAt created change path origin inner
        return (a, entries.replace key.name
          (.tableArray (tables.dropLast ++ [.table origin line inner])))
      | _ => none
    | some _ => none

/-- Adds a value under a key with dots in front of its last part. A table that was not made by dots
cannot be extended by them, and a key must be new. -/
def addValue (path : List Key) (key : Key) (node : Node) (origin : Origin) (entries : Entries) :
    Option Entries :=
  let put (origin : Origin) (entries : Entries) : Option (Unit × Entries) := do
    guard (path.isEmpty ∨ origin = .dotted)
    guard (entries.find? key.name).isNone
    return ((), entries.add key node)
  (changeAt .dotted put path origin entries).map (·.2)

/-- A document in the making: what is finished, and the table whose entries are being read, with its
path and the line of its header. -/
structure Draft where
  root : Entries := []
  entries : Entries := []
  path : List Key := []
  line : Option Nat := none
  inArray : Bool := false

namespace Draft

def putTable (key : Key) (line : Option Nat) (inArray : Bool) (table : Entries) (_ : Origin)
    (entries : Entries) : Option (Unit × Entries) :=
  let node := Node.table .header line table
  match inArray, entries.find? key.name with
  | true, some (.tableArray tables) =>
    some ((), entries.replace key.name (.tableArray (tables ++ [node])))
  | true, none => some ((), entries.add key (.tableArray [node]))
  | true, some _ => none
  | false, none => some ((), entries.add key node)
  | false, some _ => none

def finish (d : Draft) : Option Entries :=
  match d.path.getLast? with
  | none => some d.entries
  | some key =>
    (changeAt .onTheWay (putTable key d.line d.inArray d.entries) d.path.dropLast .header d.root).map
      (·.2)

/-- Takes the table of a header out of its parent, empty if there is none. One that already has a
header or was made by dots cannot have another. -/
def takeTable (key : Key) (_ : Origin) (entries : Entries) : Option (Entries × Entries) :=
  match entries.find? key.name with
  | none => some ([], entries)
  | some (.table .onTheWay _ inner) => some (inner, entries.remove key.name)
  | some _ => none

def openRow (key : Key) (_ : Origin) (entries : Entries) : Option (Entries × Entries) :=
  match entries.find? key.name with
  | none => some ([], entries.add key (.tableArray []))
  | some (.tableArray _) => some ([], entries)
  | some _ => none

def start (d : Draft) (path : List Key) (line : Nat) (inArray : Bool) : Option Draft := do
  let root ← d.finish
  let key ← path.getLast?
  let change := if inArray then openRow key else takeTable key
  let (entries, root) ← changeAt .onTheWay change path.dropLast .header root
  return { root, entries, path, line := some line, inArray }

def add (d : Draft) (path : List Key) (node : Node) : Option Draft := do
  let key ← path.getLast?
  let entries ← addValue path.dropLast key node .header d.entries
  return { d with entries }

end Draft

end TemplateCalc.Toml
