import TemplateCalc.Double.Text
import TemplateCalc.Operator

/-!
Tokens of the expression language and their texts.
-/

set_option autoImplicit false

namespace TemplateCalc

/-- A token. `word` is a name or a keyword; `quoted` is a name written behind `@`, which is never a
keyword. `finish` stands behind the last token of a text. -/
inductive Token where
  | int (n : Int64)
  | real (x : Float)
  | str (s : String)
  | word (s : String)
  | quoted (s : String)
  | operator (op : BinaryOp)
  | assign (op : Option Arith)
  | bang
  | tilde
  | step (s : Step)
  | both
  | either
  | question
  | colon
  | comma
  | dot
  | openParen
  | closeParen
  | openBracket
  | closeBracket
  | finish

namespace Token

def text : Token → String
  | int n => Numeral.signed n.toInt
  | real x => Double.plain x
  | str s => "\"" ++ s ++ "\""
  | word s => s
  | quoted s => "@" ++ s
  | operator op => op.symbol
  | assign op => assignSymbol op
  | bang => "!"
  | tilde => "~"
  | step .increment => "++"
  | step .decrement => "--"
  | both => "&&"
  | either => "||"
  | question => "?"
  | colon => ":"
  | comma => ","
  | dot => "."
  | openParen => "("
  | closeParen => ")"
  | openBracket => "["
  | closeBracket => "]"
  | finish => "end of expression"

def isAssign : Token → Bool
  | assign _ => true
  | _ => false

def isStep : Token → Bool
  | step _ => true
  | _ => false

/-- Whether the token ends an operand of which members can be taken, so that a point behind it is
never the start of a number. -/
def endsOperand : Token → Bool
  | word _ | quoted _ | closeParen | closeBracket => true
  | _ => false

end Token

end TemplateCalc
