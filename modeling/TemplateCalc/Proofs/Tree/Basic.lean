import TemplateCalc.Proofs.Loops
import TemplateCalc.Proofs.Settled
import TemplateCalc.Proofs.Written

/-!
Expression trees: how they are written, and what they mean.

A tree is written with as few parentheses as the levels of the operators allow. Its meaning is found
by recursion over the tree alone: a value or an error, and the variables behind it.
-/

set_option autoImplicit false

namespace TemplateCalc

/-- A variable: a name that is read as one word and is no keyword. -/
structure Variable where
  name : String
  isName : Scan.isName name.toList = true
  noKeyword : isKeyword (Text.lowercase name) = false

inductive Joint where
  | operator (op : BinaryOp)
  | connective (c : Session.Connective)
  | comma
  deriving DecidableEq, Repr

inductive Expr where
  | int (n : Int64) (positive : 0 ≤ n)
  | truth (b : Bool)
  | str (s : String) (plain : Scan.isPlain s = true)
  | var (x : Variable)
  | prefixed (op : PrefixOp) (operand : Expr)
  | joined (j : Joint) (left right : Expr)
  | assigned (x : Variable) (op : Option Arith) (right : Expr)
  | stepped (s : Step) (x : Variable)
  | thenStepped (x : Variable) (s : Step)

/-! ### Levels -/

def assignLevel : Nat := 12

def commaLevel : Nat := 13

def Joint.level : Joint → Nat
  | operator op => op.level + 1
  | connective .both => 10
  | connective .either => 11
  | comma => commaLevel

/-- How tightly an expression is held together: 0 if it stands alone or has a step behind it, 1 with
an operator or a step in front, and from 2 on the level of what joins its parts. -/
def Expr.level : Expr → Nat
  | int _ _ | truth _ | str _ _ | var _ | thenStepped _ _ => 0
  | prefixed _ _ | stepped _ _ => 1
  | joined j _ _ => j.level
  | assigned _ _ _ => assignLevel

theorem Joint.level_bounds (j : Joint) : 2 ≤ j.level ∧ j.level ≤ commaLevel := by
  rcases j with (op | r) | c | _
  · cases op <;> decide
  · cases r <;> decide
  · cases c <;> decide
  · decide

theorem Joint.level_ne_assignLevel (j : Joint) : j.level ≠ assignLevel := by
  rcases j with (op | r) | c | _
  · cases op <;> decide
  · cases r <;> decide
  · cases c <;> decide
  · decide

/-! ### Tokens -/

def PrefixOp.token : PrefixOp → Token
  | minus => .operator (.arith .sub)
  | plus => .operator (.arith .add)
  | not => .bang
  | bitNot => .tilde

def Joint.token : Joint → Token
  | operator op => .operator op
  | connective .both => .both
  | connective .either => .either
  | comma => .comma

def truthToken (b : Bool) : Token :=
  .word (if b then "TRUE" else "FALSE")

def enclose (needed : Bool) (tokens : List Token) : List Token :=
  if needed then .openParen :: (tokens ++ [.closeParen]) else tokens

/-- The tokens of an expression. An operand is enclosed if it is looser than the place it stands in.
To the right of a joint it is also enclosed if it is as loose as the joint, since rows are joined
from the left; to the right of an assignment it is not. -/
def Expr.tokens : Expr → List Token
  | int n _ => [.int n]
  | truth b => [truthToken b]
  | str s _ => [.str s]
  | var x => [.word x.name]
  | prefixed op e => op.token :: enclose (1 < e.level) e.tokens
  | joined j a b =>
    enclose (j.level < a.level) a.tokens ++ j.token :: enclose (j.level ≤ b.level) b.tokens
  | assigned x op e => .word x.name :: .assign op :: enclose (assignLevel < e.level) e.tokens
  | stepped s x => [.step s, .word x.name]
  | thenStepped x s => [.word x.name, .step s]

def Expr.text (e : Expr) : String :=
  Scan.spaced Token.text e.tokens

/-! ### Meaning -/

/-- A computation that changes variables and can fail. What it changed before it failed stays. -/
abbrev Meaning := ExceptT EvalError (StateM Store)

namespace Meaning

def ofExcept (result : Except EvalError Value) : Meaning Value := fun vars =>
  (result, vars)

def write (effects : Bool) (x : Variable) (value : Value) : Meaning Unit :=
  modify fun vars => if effects then vars.set x.name value else vars

def read (x : Variable) : Meaning Value := do
  match (← get).get? x.name with
  | some value => return value
  | none => throw (.symbol (.unknown x.name))

def readInt (x : Variable) (fault : TypeFault) : Meaning Int64 := do
  match (← get).get? x.name with
  | some (.int n) => return n
  | _ => throw (.type fault)

end Meaning

def Joint.isDecided : Joint → Value → Bool
  | connective c, left => c.isDecided left
  | _, _ => false

def Joint.apply : Joint → Value → Value → Except EvalError Value
  | operator op, left, right => op.apply left right
  | connective c, .bool left, .bool right => .ok (.bool (c.apply left right))
  | connective c, _, _ => .error (.type c.fault)
  | comma, _, right => .ok right

theorem Joint.settled_apply (j : Joint) (a b : Value) : Settled (j.apply a b) := by
  unfold Joint.apply
  split
  · exact BinaryOp.settled_apply _ _ _
  · exact settled_ok _
  · exact settled_type _
  · exact settled_ok _

/-- The meaning of an expression. Operands are evaluated from left to right. The right operand of a
decided connective is evaluated too, but has no effects. The old value of an assigned variable is the
one in front of the right side, and a variable without a value has none. -/
def Expr.meaning : Expr → (effects : Bool) → Meaning Value
  | int n _, _ => return .int n
  | truth b, _ => return .bool b
  | str s _, _ => return .str s
  | var x, _ => Meaning.read x
  | prefixed op e, effects => do
    let value ← e.meaning effects
    Meaning.ofExcept (op.apply value)
  | joined j a b, effects => do
    let left ← a.meaning effects
    let right ← b.meaning (effects && !j.isDecided left)
    Meaning.ofExcept (j.apply left right)
  | assigned x op e, effects => do
    let old := ((← get).get? x.name).getD .none
    let new ← e.meaning effects
    let value ← Meaning.ofExcept (Session.assignedValue op old new)
    Meaning.write effects x value
    return value
  | stepped s x, effects => do
    let n ← Meaning.readInt x (.preStep s)
    Meaning.write effects x (.int (n + s.delta))
    return .int (n + s.delta)
  | thenStepped x s, effects => do
    let n ← Meaning.readInt x (.postStep s)
    Meaning.write effects x (.int (n + s.delta))
    return .int n

/-! ### Reading back -/

section Reading

variable {rules : Scan.Rules}

abbrev ReadBack (rules : Scan.Rules) (tokens : List Token) : Prop :=
  ∀ token ∈ tokens, Scan.Alone rules token.text token

theorem readBack_cons {token : Token} {tokens : List Token}
    (first : Scan.Alone rules token.text token) (others : ReadBack rules tokens) :
    ReadBack rules (token :: tokens) :=
  List.forall_mem_cons.mpr ⟨first, others⟩

theorem readBack_enclose {needed : Bool} {tokens : List Token} (inner : ReadBack rules tokens) :
    ReadBack rules (enclose needed tokens) := by
  cases needed with
  | false => exact inner
  | true =>
      apply readBack_cons (Scan.alone_mark rfl)
      rw [ReadBack, List.forall_mem_append]
      exact ⟨inner, readBack_cons (Scan.alone_mark rfl) (List.forall_mem_nil _)⟩

theorem alone_variable (ten : rules.radix = 10) (x : Variable) :
    Scan.Alone rules (Token.word x.name).text (.word x.name) :=
  Scan.alone_word ten x.isName

theorem Expr.readBack_tokens (ten : rules.radix = 10) (e : Expr) : ReadBack rules e.tokens := by
  have nothing : ReadBack rules [] := List.forall_mem_nil _
  induction e with
  | int n positive => exact readBack_cons (Scan.alone_int ten positive) nothing
  | truth b =>
      refine readBack_cons (Scan.alone_word ten ?_) nothing
      cases b <;> decide
  | str s plain => exact readBack_cons (Scan.alone_str plain) nothing
  | var x => exact readBack_cons (alone_variable ten x) nothing
  | prefixed op e ih =>
      refine readBack_cons (Scan.alone_mark ?_) (readBack_enclose ih)
      cases op <;> rfl
  | joined j a b left right =>
      rw [Expr.tokens, ReadBack, List.forall_mem_append]
      refine ⟨readBack_enclose left, readBack_cons (Scan.alone_mark ?_) (readBack_enclose right)⟩
      rcases j with _ | _ | _
      · rfl
      · rename_i c
        cases c <;> rfl
      · rfl
  | assigned x op e ih =>
      exact readBack_cons (alone_variable ten x)
        (readBack_cons (Scan.alone_mark rfl) (readBack_enclose ih))
  | stepped s x =>
      exact readBack_cons (Scan.alone_mark rfl) (readBack_cons (alone_variable ten x) nothing)
  | thenStepped x s =>
      exact readBack_cons (alone_variable ten x) (readBack_cons (Scan.alone_mark rfl) nothing)

/-- The text of an expression has the tokens of the expression. -/
theorem Expr.scan_text (ten : rules.radix = 10) (plain : rules.separator = none) (e : Expr) :
    Scan.scan rules e.text = ⟨e.tokens, none⟩ :=
  Scan.scan_spaced plain (e.readBack_tokens ten)

theorem Expr.tokens_ne_nil (e : Expr) : e.tokens ≠ [] := by
  cases e <;> simp [Expr.tokens]

end Reading

end TemplateCalc
