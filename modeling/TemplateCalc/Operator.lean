/-!
The operators of the expression language: their symbols, and the levels at which the binary ones
bind.
-/

set_option autoImplicit false

namespace TemplateCalc

/-- Binary operators whose result is a number, a text or a date. Each has a compound assignment. -/
inductive Arith where
  | mul | div | rem | add | sub | shiftLeft | shiftRight | bitAnd | bitXor | bitOr
  deriving DecidableEq, Repr

inductive Relation where
  | less | lessEq | greater | greaterEq | equal | notEqual
  deriving DecidableEq, Repr

inductive BinaryOp where
  | arith (op : Arith)
  | relation (r : Relation)
  deriving DecidableEq, Repr

inductive PrefixOp where
  | minus | plus | not | bitNot
  deriving DecidableEq, Repr

inductive Step where
  | increment | decrement
  deriving DecidableEq, Repr

def Arith.symbol : Arith → String
  | .mul => "*"
  | .div => "/"
  | .rem => "%"
  | .add => "+"
  | .sub => "-"
  | .shiftLeft => "<<"
  | .shiftRight => ">>"
  | .bitAnd => "&"
  | .bitXor => "^"
  | .bitOr => "|"

def Relation.symbol : Relation → String
  | .less => "<"
  | .lessEq => "<="
  | .greater => ">"
  | .greaterEq => ">="
  | .equal => "=="
  | .notEqual => "!="

def BinaryOp.symbol : BinaryOp → String
  | .arith op => op.symbol
  | .relation r => r.symbol

def assignSymbol : Option Arith → String
  | none => "="
  | some op => op.symbol ++ "="

def binaryLevels : Nat := 8

/-- The level of a binary operator, from 1 for the tightest to `binaryLevels`. -/
def BinaryOp.level : BinaryOp → Nat
  | .arith .mul | .arith .div | .arith .rem => 1
  | .arith .add | .arith .sub => 2
  | .arith .shiftLeft | .arith .shiftRight => 3
  | .relation .less | .relation .lessEq | .relation .greater | .relation .greaterEq => 4
  | .relation .equal | .relation .notEqual => 5
  | .arith .bitAnd => 6
  | .arith .bitXor => 7
  | .arith .bitOr => 8

def Step.delta : Step → Int64
  | .increment => 1
  | .decrement => -1

end TemplateCalc
