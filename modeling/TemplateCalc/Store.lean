import TemplateCalc.Value.Basic

/-!
Variables. A variable is found by its exact name; an element of an array variable is a variable with
the index in its name, such as `ARR[2]`.
-/

set_option autoImplicit false

namespace TemplateCalc

structure Store where
  entries : List (String × Value) := []

namespace Store

def empty : Store := {}

def get? (s : Store) (name : String) : Option Value :=
  s.entries.lookup name

def contains (s : Store) (name : String) : Bool :=
  (s.get? name).isSome

def put (name : String) (value : Value) : List (String × Value) → List (String × Value)
  | [] => [(name, value)]
  | (n, v) :: entries =>
    if n == name then (n, value) :: entries else (n, v) :: put name value entries

def set (s : Store) (name : String) (value : Value) : Store :=
  ⟨put name value s.entries⟩

def erase (s : Store) (name : String) : Store :=
  ⟨s.entries.filter (·.1 != name)⟩

def size (s : Store) : Nat :=
  s.entries.length

def sorted (s : Store) : List (String × Value) :=
  s.entries.mergeSort fun x y => !(y.1 < x.1)

def ofList (entries : List (String × Value)) : Store :=
  entries.foldl (fun s (name, value) => s.set name value) empty

end Store

end TemplateCalc
