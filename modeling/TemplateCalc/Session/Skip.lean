import TemplateCalc.Session.Basic

/-!
Passing over the branch of a conditional that is not taken.

Nothing in the branch is evaluated, but its brackets must be nested properly.
-/

set_option autoImplicit false

namespace TemplateCalc.Session

inductive Bracket where
  | paren | square
  deriving DecidableEq, Repr

def Bracket.unclosed : Bracket → EvalError
  | .paren => .grammar .parenExpected
  | .square => .grammar .bracketExpected

/-- Which branch is passed over: the one in front of the colon or the one behind it. -/
inductive Branch where
  | first | second
  deriving DecidableEq, Repr

inductive Verdict where
  /-- The branch ended in front of the token. -/
  | halt
  /-- The token closes, or the text ends, while another bracket is open. -/
  | refuse (b : Bracket)
  /-- The token belongs to the branch; these brackets are open behind it, and so many question marks
  outside of all brackets have no colon yet. -/
  | pass (brackets : List Bracket) (pending : Nat)
  deriving DecidableEq, Repr

def judgeClosing (kind : Bracket) (pending : Nat) : List Bracket → Verdict
  | [] => .halt
  | b :: brackets => if b = kind then .pass brackets pending else .refuse b

/-- The meaning of a token, given the open brackets, innermost first, and the number of question
marks without a colon. -/
def judge (branch : Branch) (brackets : List Bracket) (pending : Nat) (token : Token) : Verdict :=
  match token with
  | .finish =>
    match brackets with
    | [] => .halt
    | b :: _ => .refuse b
  | .openParen => .pass (.paren :: brackets) pending
  | .openBracket => .pass (.square :: brackets) pending
  | .closeParen => judgeClosing .paren pending brackets
  | .closeBracket => judgeClosing .square pending brackets
  | .question => .pass brackets (if brackets.isEmpty then pending + 1 else pending)
  | .colon =>
    if !brackets.isEmpty then .pass brackets pending
    else if pending > 0 then .pass brackets (pending - 1)
    else .halt
  | .comma | .assign _ =>
    if brackets.isEmpty && branch = .second then .halt else .pass brackets pending
  | _ => .pass brackets pending

/-- Passes over a branch: the token that ends it and those behind. The branch must have a token;
`skipped` says that one was passed over already. -/
def skipBranch (branch : Branch) (fault : Option LexicalFault) (brackets : List Bracket)
    (pending : Nat) (skipped : Bool) (token : Token) (rest : List Token) :
    Except EvalError (Token × List Token) :=
  match judge branch brackets pending token, rest with
  | .halt, rest => if skipped then .ok (token, rest) else .error .notImplemented
  | .refuse b, _ => .error b.unclosed
  | .pass brackets pending, token :: rest =>
    skipBranch branch fault brackets pending true token rest
  | .pass brackets _, [] =>
    match fault, brackets with
    | some fault, _ => .error (.lexical fault)
    | none, [] => .ok (.finish, [])
    | none, b :: _ => .error b.unclosed
termination_by structural rest

def skipOperand {σ : Type} (branch : Branch) : Eval σ Unit := do
  let s ← get
  let (token, rest) ← ofExcept (skipBranch branch s.fault [] 0 false s.token s.rest)
  set { s with token := token, rest := rest }

end TemplateCalc.Session
