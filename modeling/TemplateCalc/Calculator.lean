import TemplateCalc.Session.Operand
import TemplateCalc.Settings.Basic

/-!
Calculators: what stays from one evaluation to the next.
-/

set_option autoImplicit false

namespace TemplateCalc

/-- A calculator: its variables, the random source, the state of the dialog, and the wording of the
error with which the last evaluation ended, if it did. -/
structure Calculator (σ : Type) where
  vars : Store := {}
  random : Random
  dialog : σ
  lastError : Option String := none

structure Outcome (σ : Type) where
  result : Except EvalError Value
  calculator : Calculator σ
  journal : Journal

def EvalOptions.rules (o : EvalOptions) : Scan.Rules :=
  Scan.Rules.within o.radix (if o.digitSeparators then some o.separator else none)

namespace Calculator

variable {σ : Type}

def session? (c : Calculator σ) (reading : Scan.Reading) : Except LexicalFault (Session σ) :=
  let start (token : Token) (rest : List Token) : Session σ :=
    { token, rest, fault := reading.fault, vars := c.vars, random := c.random, dialog := c.dialog }
  match reading.tokens, reading.fault with
  | token :: rest, _ => .ok (start token rest)
  | [], none => .ok (start .finish [])
  | [], some fault => .error fault

def run (env : Surroundings σ) (options : EvalOptions) (c : Calculator σ) (text : String) :
    Outcome σ :=
  match c.session? (Scan.scan options.rules text) with
  | .error fault => ⟨.error (.lexical fault), c, #[]⟩
  | .ok s =>
    let (result, s) := Session.whole env options.maxDepth options.sideEffects s
    ⟨result, { c with vars := s.vars, random := s.random, dialog := s.dialog }, s.journal⟩

def evaluate (env : Surroundings σ) (options : EvalOptions) (c : Calculator σ) (text : String) :
    Outcome σ :=
  let outcome := c.run env options text
  match outcome.result with
  | .ok _ => { outcome with calculator := { outcome.calculator with lastError := none } }
  | .error e =>
    let message := e.shownAs options.legacyMessages
    { outcome with
      calculator := { outcome.calculator with lastError := some message }
      journal := outcome.journal.push (.failed text message) }

end Calculator

end TemplateCalc
