import TemplateCalc.Session.Skip

/-!
The levels of the grammar from the comma down to the binary operators.

Every level reads its operands from the next tighter one and applies its operators at once; there is
no tree in between. Whatever nests goes through `Nested`, which evaluates a production one level
deeper. The flag `effects` says whether variables may change and questions may be asked; it is off in
an operand that cannot matter any more.
-/

set_option autoImplicit false

namespace TemplateCalc.Session

variable {σ : Type}

/-- A production that can nest. `prefixed` is an operand with the operators in front of it; its flag
says that a step waits for it, so that a name without a value is allowed. -/
inductive Production where
  | comma
  | assign
  | ternary
  | prefixed (stepWaits : Bool)
  deriving DecidableEq, Repr

abbrev Nested (σ : Type) := Production → (effects : Bool) → Eval σ Operand

/-! ### Binary operators -/

def binaryTail (level : Nat) (operand : Eval σ Operand) : List Token → Operand → Eval σ Operand
  | [], lhs => pure lhs
  | _ :: rounds, lhs => do
    match ← peek with
    | .operator op =>
      if op.level = level then
        discard advance
        let rhs ← orMissing (.second op) operand
        let value ← ofExcept (op.apply lhs.value rhs.value)
        binaryTail level operand rounds { value }
      else
        return lhs
    | _ => return lhs

def binary (nested : Nested σ) (effects : Bool) : (level : Nat) → Eval σ Operand
  | 0 => nested (.prefixed false) effects
  | level + 1 => do
    let lhs ← binary nested effects level
    binaryTail (level + 1) (binary nested effects level) (← get).ahead lhs

/-! ### Logical operators -/

inductive Connective where
  | both | either
  deriving DecidableEq, Repr

def Connective.isToken : Connective → Token → Bool
  | .both, .both => true
  | .either, .either => true
  | _, _ => false

def Connective.deciding : Connective → Bool
  | .both => false
  | .either => true

def Connective.apply : Connective → Bool → Bool → Bool
  | .both, a, b => a && b
  | .either, a, b => a || b

def Connective.missing : Connective → MissingOperand
  | .both => .both
  | .either => .either

def Connective.fault : Connective → TypeFault
  | .both => .both
  | .either => .either

def Connective.isDecided (c : Connective) : Value → Bool
  | .bool b => b == c.deciding
  | _ => false

/-- The rest of a row of operands joined by a connective. Behind an operand that decides the result,
the next one has no effects. -/
def connectiveTail (c : Connective) (operand : Bool → Eval σ Operand) (effects : Bool) :
    List Token → Operand → Eval σ Operand
  | [], lhs => pure lhs
  | _ :: rounds, lhs => do
    if c.isToken (← peek) then
      discard advance
      let rhs ← orMissing c.missing (operand (effects && !c.isDecided lhs.value))
      match lhs.value, rhs.value with
      | .bool a, .bool b => connectiveTail c operand effects rounds { value := .bool (c.apply a b) }
      | _, _ => throw (.type c.fault)
    else
      return lhs

def conjunction (nested : Nested σ) (effects : Bool) : Eval σ Operand := do
  let lhs ← binary nested effects binaryLevels
  connectiveTail .both (fun effects => binary nested effects binaryLevels) effects (← get).ahead lhs

def disjunction (nested : Nested σ) (effects : Bool) : Eval σ Operand := do
  let lhs ← conjunction nested effects
  connectiveTail .either (conjunction nested) effects (← get).ahead lhs

/-! ### Conditional, assignment and comma -/

def isColon : Token → Bool
  | .colon => true
  | _ => false

/-- The two branches behind a condition, of which one is evaluated and the other passed over; or the
condition alone. -/
def conditional (nested : Nested σ) (effects : Bool) (condition : Operand) : Eval σ Operand := do
  match ← peek with
  | .question =>
    match condition.value with
    | .bool taken =>
      discard advance
      if taken then
        let result ← orMissing .ifBranch (nested .comma effects)
        expect isColon .colonExpected
        orMissing .elseBranch (skipOperand .second)
        return { value := result.value }
      else
        orMissing .ifBranch (skipOperand .first)
        expect isColon .colonExpected
        let result ← orMissing .elseBranch (nested .ternary effects)
        return { value := result.value }
    | _ => throw (.type .condition)
  | _ => return condition

def ternary (nested : Nested σ) (effects : Bool) : Eval σ Operand := do
  let condition ← disjunction nested effects
  conditional nested effects condition

/-- What a compound assignment stores. A wrong type is reported for the assignment. -/
def assignedValue (op : Option Arith) (old new : Value) : Except EvalError Value :=
  match op with
  | none => .ok new
  | some op =>
    match old.arith op new with
    | .error (.type _) => .error (.type (.compound op))
    | result => result

/-- The assignment behind its left side, or the left side alone. The right side is evaluated before
the variable changes, and the old value is the one read before it. -/
def assignTo (nested : Nested σ) (effects : Bool) (lhs : Operand) : Eval σ Operand := do
  match ← peek with
  | .assign op =>
    match lhs.target with
    | none => throw (.type (.assignTarget op))
    | some name =>
      discard advance
      let rhs ← orMissing (.assigned op) (nested .assign effects)
      let value ← ofExcept (assignedValue op lhs.value rhs.value)
      if effects then
        note (.assigned name op value)
      store effects name value
      return { value }
  | _ => return lhs

def assign (nested : Nested σ) (effects : Bool) : Eval σ Operand := do
  let lhs ← ternary nested effects
  assignTo nested effects lhs

def commaTail (expression : Eval σ Operand) : List Token → Operand → Eval σ Operand
  | [], last => pure last
  | _ :: rounds, last => do
    match ← peek with
    | .comma =>
      discard advance
      let next ← orMissing .afterComma expression
      commaTail expression rounds next
    | _ => return last

def comma (nested : Nested σ) (effects : Bool) : Eval σ Operand := do
  let first ← assign nested effects
  commaTail (assign nested effects) (← get).ahead first

end TemplateCalc.Session
