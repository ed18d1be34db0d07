import TemplateCalc.Error

/-!
Symbols of the host: the fields of a template, their members and elements, and the names of types.
The host also gives access to the bytes of the file.

Sizes and addresses are added up without a check for overflow, as a release build adds them: a
container at the greatest address has elements at the least ones.
-/

set_option autoImplicit false

namespace TemplateCalc

/-- A symbol. If its value marks a container, the symbol itself is handed to the host to look up a
member or an element. -/
structure Symbol where
  value : Value
  size : Int64
  address : Int64
  text : String := ""

structure Host where
  resolve : (name : String) → (parent : Option Symbol) → (index : Nat) → Option Symbol
  readBytes : (address : Int64) → (count : Nat) → Except EvalError (List UInt8)

def Host.none : Host where
  resolve _ _ _ := Option.none
  readBytes _ _ := .error (.host .noData)

def Host.follow (h : Host) (parent : Option Symbol) : List (String × Nat) → Option Symbol
  | [] => parent
  | (name, index) :: path =>
    match h.resolve name parent index with
    | Option.none => Option.none
    | some symbol => h.follow (some symbol) path

inductive Children where
  | members (list : List (String × Symbol))
  | elements (list : List Symbol)
  | bytes (list : List UInt8)

/-- Symbols and file contents given as data. A container is known by its kind, its address and its
size; of two that agree in these the earlier one is found. -/
structure SymbolTable where
  top : List (String × Symbol) := []
  containers : List (Symbol × Children) := []
  data : Array UInt8 := #[]

namespace SymbolTable

/-- Defines a symbol at the top. A later definition of a name replaces an earlier one. -/
def define (t : SymbolTable) (name : String) (symbol : Symbol) : SymbolTable :=
  { t with top := (name, symbol) :: t.top }

def defineType (t : SymbolTable) (name : String) (size : Int64) : SymbolTable :=
  t.define name ⟨.none, size, 0, ""⟩

def defineContainer (t : SymbolTable) (name : String) (symbol : Symbol) (children : Children) :
    SymbolTable :=
  { t with containers := t.containers ++ [(symbol, children)] }.define name symbol

def structSymbol (address : Int64) (members : List (String × Symbol)) : Symbol :=
  ⟨.struct, (members.map (·.2.size)).sum, address, ""⟩

def arraySymbol (address : Int64) (elements : List Symbol) : Symbol :=
  ⟨.array, (elements.map (·.size)).sum, address, ""⟩

def blobSymbol (address : Int64) (bytes : List UInt8) : Symbol :=
  ⟨.blob, Int64.ofNat bytes.length, address, ""⟩

def sameKind : Value → Value → Bool
  | .struct, .struct | .array, .array | .blob, .blob => true
  | _, _ => false

def children? (t : SymbolTable) (parent : Symbol) : Option Children :=
  (t.containers.find? fun (c, _) =>
    sameKind c.value parent.value && c.address == parent.address && c.size == parent.size).map (·.2)

def resolve (t : SymbolTable) (name : String) (parent : Option Symbol) (index : Nat) :
    Option Symbol := do
  match parent with
  | none => t.top.lookup name
  | some parent =>
    match ← t.children? parent with
    | .members list => list.lookup name
    | .elements list => list[index]?
    | .bytes list =>
      let byte ← list[index]?
      return ⟨.int (Int64.ofNat byte.toNat), 1, parent.address + Int64.ofNat index, ""⟩

def readBytes (t : SymbolTable) (address : Int64) (count : Nat) : Except EvalError (List UInt8) :=
  let start := address.toInt.toNat
  if address < 0 ∨ start + count > t.data.size then .error (.host (.outsideFile address))
  else .ok (t.data.extract start (start + count)).toList

def host (t : SymbolTable) : Host where
  resolve := t.resolve
  readBytes := t.readBytes

end SymbolTable

end TemplateCalc
