import TemplateCalc.Toml.Lexeme

/-!
Reading TOML documents: values, headers and statements.

A document that cannot be read is answered with the line on which reading stopped. A statement that
contradicts an earlier one stops it at its own first line.
-/

set_option autoImplicit false

namespace TemplateCalc.Toml

def skipComment : List Char → List Char
  | '#' :: rest => rest.dropWhile isVisible
  | rest => rest

/-- The text behind spaces, comments and line ends, or the line on which a comment or a carriage
return is not followed by the end of the line. The fuel bounds the number of lines. -/
def skipLinesWithin : (fuel : Nat) → Cursor → Except Nat Cursor
  | 0, c => .error c.line
  | fuel + 1, c =>
    let rest := skipSpaces c.rest
    match lineBreak? (skipComment rest), rest with
    | some rest, _ => skipLinesWithin fuel ⟨rest, c.line + 1⟩
    | none, '#' :: _ | none, '\r' :: _ => .error c.line
    | none, rest => .ok ⟨rest, c.line⟩

def skipLines (c : Cursor) : Except Nat Cursor :=
  skipLinesWithin (c.rest.length + 1) c

def scalar (c : Cursor) : Except Nat (Scalar × Cursor) :=
  let behind (s : Scalar) (rest : List Char) : Except Nat (Scalar × Cursor) := .ok (s, ⟨rest, c.line⟩)
  match c.rest with
  | 't' :: 'r' :: 'u' :: 'e' :: rest => behind (.boolean true) rest
  | 'f' :: 'a' :: 'l' :: 's' :: 'e' :: rest => behind (.boolean false) rest
  | cs =>
    if startsString cs then do
      let (s, c) ← string c
      return (.string s, c)
    else
      match afterDatetime? cs, float? cs, integer? cs with
      | some rest, _, _ => behind .datetime rest
      | none, some (x, rest), _ => behind (.float x) rest
      | none, none, some (n, rest) => behind (.integer n) rest
      | none, none, none => .error c.line

mutual

/-- A value inside so many open brackets and braces, or the line on which it goes wrong. The fuel
bounds twice the number of characters. -/
def value : (fuel : Nat) → (depth : Nat) → Cursor → Except Nat (Node × Cursor)
  | 0, _, c => .error c.line
  | fuel + 1, depth, c =>
    match c.rest with
    | '[' :: rest =>
      if depth + 1 < depthLimit then do
        let (elements, behind) ← elements fuel (depth + 1) ⟨rest, c.line⟩
        return (.array c.line elements, behind)
      else .error c.line
    | '\x7b' :: rest =>
      if depth + 1 < depthLimit then do
        let start : Cursor := ⟨skipSpaces rest, c.line⟩
        let (entries, behind) ← bracedEntries fuel (depth + 1) (some []) start start
        match entries, behind.rest with
        | none, _ => .error c.line
        | some entries, '\x7d' :: rest =>
          return (.table .braces (some c.line) entries, ⟨rest, behind.line⟩)
        | some _, _ => .error behind.line
      else .error c.line
    | _ => do
      let (s, behind) ← scalar c
      return (.scalar c.line s, behind)

/-- The elements of an array up to its closing bracket. A comma can stand behind the last one. An
element takes the comments behind it along, so it is the element that one of these spoils. -/
def elements : (fuel : Nat) → (depth : Nat) → Cursor → Except Nat (List Node × Cursor)
  | 0, _, c => .error c.line
  | fuel + 1, depth, c => do
    let start ← skipLines c
    match start.rest with
    | ']' :: rest => return ([], ⟨rest, start.line⟩)
    | _ =>
      let (node, behind) ← value fuel depth start
      let behind ← (skipLines behind).mapError fun _ => start.line
      match behind.rest with
      | ',' :: rest =>
        let (nodes, behind) ← elements fuel depth ⟨rest, behind.line⟩
        return (node :: nodes, behind)
      | ']' :: rest => return ([node], ⟨rest, behind.line⟩)
      | _ => .error behind.line

/-- The entries of a table in braces and where they end; `none` if they contradict each other. They
end at `last` if no entry starts here, so no comma can stand behind the last one. All of them must be
on one line, arrays and strings apart. -/
def bracedEntries : (fuel : Nat) → (depth : Nat) → Option Entries → (last : Cursor) → Cursor →
    Except Nat (Option Entries × Cursor)
  | 0, _, _, _, c => .error c.line
  | fuel + 1, depth, entries, last, c => do
    match ← keyPath c with
    | none => return (entries, last)
    | some (path, '=' :: rest) =>
      let (node, behind) ← value fuel depth ⟨skipSpaces rest, c.line⟩
      let added : Option Entries := do
        let key ← path.getLast?
        addValue path.dropLast key node .header (← entries)
      let behind : Cursor := ⟨skipSpaces behind.rest, behind.line⟩
      match behind.rest with
      | ',' :: rest => bracedEntries fuel depth added behind ⟨rest, behind.line⟩
      | _ => return (added, behind)
    | some _ => .error c.line

end

/-- The cursor behind the end of a line, in front of which only spaces and a comment may stand; or the
line if something else does. -/
def lineEnd (c : Cursor) : Except Nat Cursor :=
  let rest := skipComment (skipSpaces c.rest)
  match lineBreak? rest, rest with
  | some rest, _ => .ok ⟨rest, c.line + 1⟩
  | none, [] => .ok ⟨[], c.line⟩
  | none, _ => .error c.line

def header (c : Cursor) : Except Nat (List Key × Bool × Cursor) := do
  let inArray := c.rest.take 2 == ['[', '[']
  match inArray, ← keyPath ⟨c.rest.drop (if inArray then 2 else 1), c.line⟩ with
  | true, some (path, ']' :: ']' :: rest) | false, some (path, ']' :: rest) =>
    let behind ← lineEnd ⟨rest, c.line⟩
    return (path, inArray, behind)
  | _, _ => .error c.line

def assignment (c : Cursor) : Except Nat (List Key × Node × Cursor) := do
  match ← keyPath c with
  | some (path, '=' :: rest) =>
    let (node, behind) ← value (2 * rest.length + 2) 0 ⟨skipSpaces rest, c.line⟩
    let behind ← lineEnd behind
    return (path, node, behind)
  | _ => .error c.line

def statements : (fuel : Nat) → Draft → Cursor → Except Nat Draft
  | 0, _, c => .error c.line
  | fuel + 1, d, c =>
    let c : Cursor := ⟨skipSpaces c.rest, c.line⟩
    match lineBreak? c.rest, c.rest with
    | some rest, _ => statements fuel d ⟨rest, c.line + 1⟩
    | none, [] => .ok d
    | none, '#' :: _ => do
      let behind ← lineEnd c
      statements fuel d behind
    | none, '[' :: _ => do
      let (path, inArray, behind) ← header c
      match d.start path c.line inArray with
      | some d => statements fuel d behind
      | none => .error c.line
    | none, _ => do
      let (path, node, behind) ← assignment c
      match d.add path node with
      | some d => statements fuel d behind
      | none => .error c.line

/-- The entries of a document, or the line on which it cannot be read. A mark for the byte order in
front of it does not count. -/
def document (s : String) : Except Nat Entries :=
  let cs :=
    match s.toList with
    | c :: rest => if c.toNat = 0xFEFF then rest else c :: rest
    | [] => []
  match statements (cs.length + 1) {} ⟨cs, 1⟩ with
  | .error line => .error line
  | .ok d => d.finish.elim (.error (cs.count '\n' + 1)) .ok

end TemplateCalc.Toml
