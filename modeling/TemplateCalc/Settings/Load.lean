import TemplateCalc.Double.Text
import TemplateCalc.Settings.Basic
import TemplateCalc.Text.Blank
import TemplateCalc.Text.Quoted
import TemplateCalc.Toml.Document

/-!
Settings from a TOML document.

The document has the tables `format` and `eval`; what it leaves out keeps its default. A table can also
be given as an array of its values in the order in which `formatFields` and `evalFields` list them.
-/

set_option autoImplicit false

namespace TemplateCalc.Settings

open Toml

/-- Why settings could not be read, and the line; line 0 stands for no line. -/
inductive LoadError where
  /-- The text is no TOML document. -/
  | notToml (line : Nat)
  /-- The document does not describe settings. -/
  | invalid (line : Nat) (message : String)
  deriving DecidableEq, Repr

def LoadError.line : LoadError → Nat
  | notToml line => line
  | invalid line _ => line

/-- The text of an error, without its line. A reader of TOML has a text of its own for each way to
fail; here all of them have one, and only the line tells them apart. -/
def LoadError.message : LoadError → String
  | notToml _ => "invalid TOML document"
  | invalid _ message => message

def LoadError.text (e : LoadError) : String :=
  if e.line = 0 then e.message else "line " ++ Numeral.decimal e.line ++ ": " ++ e.message

def describe : Node → String
  | .scalar _ (.string s) => "string " ++ Text.quoted s
  | .scalar _ (.integer n) => "integer `" ++ Numeral.signed n.toInt ++ "`"
  | .scalar _ (.float x) => "floating point `" ++ Double.pointed x ++ "`"
  | .scalar _ (.boolean b) => "boolean `" ++ (if b then "true" else "false") ++ "`"
  | .scalar _ .datetime => "map"
  | .array _ _ => "sequence"
  | .table _ _ _ => "map"
  | .tableArray _ => "sequence"

def wrongType {α : Type} (line : Nat) (node : Node) (expected : String) : Except LoadError α :=
  .error (.invalid (node.line?.getD line)
    ("invalid type: " ++ describe node ++ ", expected " ++ expected))

def wrongValue {α : Type} (line : Nat) (node : Node) (expected : String) : Except LoadError α :=
  .error (.invalid (node.line?.getD line)
    ("invalid value: " ++ describe node ++ ", expected " ++ expected))

def natural (bound : Nat) (expected : String) (line : Nat) (node : Node) : Except LoadError Nat :=
  match node with
  | .scalar _ (.integer n) =>
    if 0 ≤ n ∧ n.toInt.toNat < bound then .ok n.toInt.toNat else wrongValue line node expected
  | _ => wrongType line node expected

def boolean (line : Nat) (node : Node) : Except LoadError Bool :=
  match node with
  | .scalar _ (.boolean b) => .ok b
  | _ => wrongType line node "a boolean"

def character (line : Nat) (node : Node) : Except LoadError Char :=
  match node with
  | .scalar _ (.string s) =>
    match s.toList with
    | [c] => .ok c
    | _ => wrongValue line node "a character"
  | _ => wrongType line node "a character"

def string (line : Nat) (node : Node) : Except LoadError String :=
  match node with
  | .scalar _ (.string s) => .ok s
  | _ => wrongType line node "a string"

structure Field (α : Type) where
  name : String
  set : (line : Nat) → Node → α → Except LoadError α

def Field.of {α β : Type} (name : String) (read : Nat → Node → Except LoadError β)
    (change : α → β → α) : Field α where
  name := name
  set line node a := (read line node).map (change a)

def wordBound : Nat := UInt32.size

def longWordBound : Nat := UInt64.size

def formatFields : List (Field FormatOptions) :=
  [.of "decimal_point" character fun f c => { f with decimalPoint := c },
    .of "group_char" character fun f c => { f with groupChar := c },
    .of "group_size" (natural longWordBound "usize") fun f n => { f with groupSize := n },
    .of "int_format" string fun f s => { f with intFormat := s },
    .of "unsigned_format" string fun f s => { f with unsignedFormat := s },
    .of "real_format" string fun f s => { f with realFormat := s },
    .of "string_format" string fun f s => { f with stringFormat := s },
    .of "date_format" string fun f s => { f with dateFormat := s }]

def evalFields : List (Field EvalOptions) :=
  [.of "radix" (natural wordBound "u32") fun o n => { o with radix := n },
    .of "digit_separators" boolean fun o b => { o with digitSeparators := b },
    .of "separator" character fun o c => { o with separator := c },
    .of "side_effects" boolean fun o b => { o with sideEffects := b },
    .of "legacy_messages" boolean fun o b => { o with legacyMessages := b },
    .of "max_depth" (natural longWordBound "usize") fun o n => { o with maxDepth := n }]

def expectedNames (names : List String) : String :=
  let marked := names.map fun name => "`" ++ name ++ "`"
  match marked with
  | [] => "there are no fields"
  | [a] => "expected " ++ a
  | [a, b] => "expected " ++ a ++ " or " ++ b
  | names => "expected one of " ++ ", ".intercalate names

def unknownField {α β : Type} (fields : List (Field α)) (line : Nat) (name : String) :
    Except LoadError β :=
  .error (.invalid line
    ("unknown field `" ++ name ++ "`, " ++ expectedNames (fields.map Field.name)))

def setEntries {α : Type} (fields : List (Field α)) (a : α) : Entries → Except LoadError α
  | [] => .ok a
  | (key, node) :: entries =>
    match fields.find? (·.name == key.name) with
    | none => unknownField fields key.line key.name
    | some field => do
      let a ← field.set key.line node a
      setEntries fields a entries

def setElements {α : Type} (line : Nat) (a : α) : List (Field α) → List Node → Except LoadError α
  | field :: fields, node :: nodes => do
    let a ← field.set line node a
    setElements line a fields nodes
  | _, _ => .ok a

/-- The key under which a date appears to a reader of tables. -/
def datetimeKey : String := "$__toml_private_datetime"

def record {α : Type} (expected : String) (fields : List (Field α)) (start : α) (line : Nat)
    (node : Node) : Except LoadError α :=
  match node with
  | .table _ _ entries => setEntries fields start entries
  | .array _ elements => setElements line start fields elements
  | .tableArray tables => setElements line start fields tables
  | .scalar own .datetime => unknownField fields own datetimeKey
  | .scalar _ _ => wrongType line node expected

def tables : List (Field Settings) :=
  [{ name := "format"
     set := fun line node s =>
      (record "struct FormatConfig" formatFields {} line node).map fun f => { s with format := f } },
    { name := "eval"
      set := fun line node s =>
        (record "struct EvalOptions" evalFields {} line node).map fun o => { s with eval := o } }]

def linesOf (s : String) : List String :=
  (s.toList.splitOn '\n').map String.ofList

/-- The first line that starts with a word behind any blanks; 0 if none does. -/
def lineStartingWith (word s : String) : Nat :=
  ((linesOf s).findIdx? fun line => (Text.trimStart line).startsWith word).elim 0 (· + 1)

/-- Checks what the types do not say. The line is the first one that starts with the field's name. -/
def validate (source : String) (s : Settings) : Except LoadError Unit :=
  if s.eval.radix < 2 ∨ s.eval.radix > 36 then
    .error (.invalid (lineStartingWith "radix" source)
      ("radix must be from 2 to 36, not " ++ Numeral.decimal s.eval.radix))
  else if s.format.groupSize = 0 then
    .error (.invalid (lineStartingWith "group_size" source) "group_size must be at least 1")
  else
    .ok ()

def load (source : String) : Except LoadError Settings :=
  match document source with
  | .error line => .error (.notToml line)
  | .ok entries => do
    let s ← setEntries tables {} entries
    validate source s
    return s

end TemplateCalc.Settings
