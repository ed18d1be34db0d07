import TemplateCalc.Dialog
import TemplateCalc.Journal
import TemplateCalc.Random
import TemplateCalc.Store
import TemplateCalc.Symbol
import TemplateCalc.Token.Scan
import TemplateCalc.Value.Operation

/-!
The state of one evaluation, and the steps from which evaluations are made.

An evaluation walks through the tokens with one token in view. It can fail, and what it did before
stays done.
-/

set_option autoImplicit false

namespace TemplateCalc

structure Surroundings (σ : Type) where
  host : Host
  /-- How questions are answered, if they are. -/
  dialog : Option (Dialog σ)
  /-- The day count of the present. -/
  now : Float

/-- The state of an evaluation: the token in view and those behind it, and what the evaluation can
change. -/
structure Session (σ : Type) where
  token : Token
  rest : List Token
  /-- The fault behind the last token, if the text could not be read to its end. -/
  fault : Option LexicalFault
  vars : Store
  random : Random
  dialog : σ
  depth : Nat := 0
  journal : Journal := #[]

abbrev Eval (σ : Type) := ExceptT EvalError (StateM (Session σ))

/-- The value of an operand, and the variable it was read from, if it can be assigned to. -/
structure Operand where
  value : Value
  target : Option String := none

namespace Session

variable {σ : Type}

/-- The tokens that are still to come, the one in view first. Loops make at most one round for each
of them. -/
def ahead (s : Session σ) : List Token :=
  s.token :: s.rest

def peek : Eval σ Token := do
  return (← get).token

def advance : Eval σ Token := do
  let s ← get
  match s.rest with
  | token :: rest =>
    set { s with token := token, rest := rest }
    return s.token
  | [] =>
    match s.fault with
    | some fault => throw (.lexical fault)
    | none =>
      set { s with token := Token.finish }
      return s.token

def expect (wanted : Token → Bool) (fault : GrammarFault) : Eval σ Unit := do
  if wanted (← peek) then
    discard advance
  else
    throw (.grammar fault)

def note (e : Event) : Eval σ Unit :=
  modify fun s => { s with journal := s.journal.push e }

def lookup (env : Surroundings σ) (name : String) (parent : Option Symbol) (index : Nat) :
    Eval σ (Option Symbol) := do
  let found := env.host.resolve name parent index
  note (.lookedUp name index (found.map Symbol.value))
  return found

def varValue? (name : String) : Eval σ (Option Value) := do
  return (← get).vars.get? name

def store (effects : Bool) (name : String) (value : Value) : Eval σ Unit :=
  if effects then modify fun s => { s with vars := s.vars.set name value } else pure ()

def orMissing {α : Type} (operand : MissingOperand) (step : Eval σ α) : Eval σ α :=
  tryCatch step fun e => throw (e.orMissing operand)

/-- Runs a step one level deeper. The depth is back to where it was behind the step, also if it
fails. -/
def deeper {α : Type} (step : Eval σ α) : Eval σ α := fun s =>
  let (result, s) := step { s with depth := s.depth + 1 }
  (result, { s with depth := s.depth - 1 })

def ofExcept {α : Type} (result : Except EvalError α) : Eval σ α := fun s =>
  (result, s)

end Session

end TemplateCalc
