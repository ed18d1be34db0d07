/-!
Files and input of a run, given as data.
-/

set_option autoImplicit false

namespace TemplateCalc.Console

inductive FileContent where
  /-- Nothing has this name. -/
  | missing
  /-- A name on the way is that of a file. -/
  | blocked
  | directory
  | unreadable (reason : String)
  | bytes (content : ByteArray)

def FileContent.isPresent : FileContent → Bool
  | .missing | .blocked => false
  | .directory | .unreadable _ | .bytes _ => true

def FileContent.toExcept : FileContent → Except String ByteArray
  | .missing => .error "No such file or directory (os error 2)"
  | .blocked => .error "Not a directory (os error 20)"
  | .directory => .error "Is a directory (os error 21)"
  | .unreadable reason => .error reason
  | .bytes content => .ok content

def notTextReason : String := "stream did not contain valid UTF-8"

def FileContent.text (f : FileContent) : Except String String := do
  let content ← f.toExcept
  match String.fromUTF8? content with
  | some s => return s
  | none => .error notTextReason

/-! ### Directories -/

structure Directory where
  files : List (List String × ByteArray) := []

inductive Place where
  | inside (names : List String)
  | file (content : ByteArray)
  | nowhere
  | beyondFile

def pathNames (path : String) : List String := path.splitOn "/"

namespace Directory

/-- Goes one name further. A name that no file lies under leads nowhere, and nothing lies behind a
file. -/
def enter (d : Directory) (place : Place) (name : String) : Place :=
  match place with
  | .inside names =>
    if name = "" ∨ name = "." then place
    else if name = ".." then .inside names.dropLast
    else
      let target := names ++ [name]
      match d.files.lookup target with
      | some content => .file content
      | none => if d.files.any (fun f => target.isPrefixOf f.1) then .inside target else .nowhere
  | .file _ => .beyondFile
  | .nowhere | .beyondFile => place

def read (d : Directory) (path : String) : FileContent :=
  match (pathNames path).foldl d.enter (.inside []) with
  | .inside _ => .directory
  | .file content => .bytes content
  | .nowhere => .missing
  | .beyondFile => .blocked

end Directory

/-! ### Input -/

/-- A line of input: a text, or bytes that are none. -/
inductive Line where
  | text (s : String)
  | garbled

def splitLines (bytes : List UInt8) : List (List UInt8) :=
  bytes.foldr (fun b lines =>
    if b = 10 then [b] :: lines
    else
      match lines with
      | [] => [[b]]
      | line :: rest => (b :: line) :: rest) []

def Line.ofBytes (input : ByteArray) : List Line :=
  (splitLines input.toList).map fun line => (String.fromUTF8? ⟨line.toArray⟩).elim .garbled .text

end TemplateCalc.Console
