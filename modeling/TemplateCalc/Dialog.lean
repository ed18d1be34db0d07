/-!
Questions to the user.

A dialog is a way of answering with a state of its own. Every answer comes with the state behind it
and with what was shown to the user meanwhile; there is no answer if the user cancels.
-/

set_option autoImplicit false

namespace TemplateCalc

structure Reply (α σ : Type) where
  answer : Option α
  state : σ
  shown : String := ""

structure Dialog (σ : Type) where
  askInteger : (prompt : String) → (initial least greatest : Int64) → σ → Reply Int64 σ
  askText : (prompt initial : String) → σ → Reply String σ
  askChoice : (prompt yes no : String) → σ → Reply Bool σ

inductive Answer where
  | int (n : Int64)
  | str (s : String)
  | bool (b : Bool)
  | initial
  | cancel

/-- Answers prepared in advance, and the prompts to which some were given. -/
structure Script where
  answers : List Answer := []
  prompts : List String := []

namespace Script

/-- The next answer, which is the initial value if none is left. -/
def next (s : Script) (prompt : String) : Answer × Script :=
  (s.answers.headD .initial, ⟨s.answers.tail, s.prompts ++ [prompt]⟩)

/-- The number in a range that is nearest to `n`; the lower end wins if the range is empty. -/
def clamp (n least greatest : Int64) : Int64 :=
  let greatest := if greatest < least then least else greatest
  if n < least then least else if n > greatest then greatest else n

/-- The dialog that gives the prepared answers. An answer of another type counts as the initial
value. -/
def dialog : Dialog Script where
  askInteger prompt initial least greatest s :=
    let (answer, s) := s.next prompt
    match answer with
    | .int n => ⟨some (clamp n least greatest), s, ""⟩
    | .cancel => ⟨none, s, ""⟩
    | _ => ⟨some initial, s, ""⟩
  askText prompt initial s :=
    let (answer, s) := s.next prompt
    match answer with
    | .str text => ⟨some text, s, ""⟩
    | .cancel => ⟨none, s, ""⟩
    | _ => ⟨some initial, s, ""⟩
  askChoice prompt _ _ s :=
    let (answer, s) := s.next prompt
    match answer with
    | .bool b => ⟨some b, s, ""⟩
    | .cancel => ⟨none, s, ""⟩
    | _ => ⟨some false, s, ""⟩

end Script

end TemplateCalc
