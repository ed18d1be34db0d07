import TemplateCalc.Function.Basic
import TemplateCalc.Token

/-!
Errors of reading and evaluating an expression, by cause, and their wording.
-/

set_option autoImplicit false

namespace TemplateCalc

inductive LexicalFault where
  | unexpected (c : Char)
  | unexpectedPair (first second : Char)
  | invalidNumber (text : String)
  | hexTooBig (digits : String)
  | tooBig (digits : String)
  | characterNotClosed
  | badEscape (c : Char)
  | stringNotClosed

inductive GrammarFault where
  | trailing (token : Token)
  | parenExpected
  | bracketExpected
  | colonExpected
  | reserved (word : String)
  | dotExpected
  | indexExpected
  | symbolExpected
  | openingExpected (name : String)
  | closingExpected (name : String)
  | secondArgument (f : Function)
  | midClosing

inductive TypeFault where
  | operands (op : Arith)
  | comparison
  | compound (op : Arith)
  | prefixed (op : PrefixOp)
  | condition
  | either
  | both
  | assignTarget (op : Option Arith)
  | preStep (s : Step)
  | postStep (s : Step)
  | index
  | elementIndex
  | argument (f : Function) (position : Nat)

inductive SymbolFault where
  | unknown (name : String)
  | notInFile (name : String)
  | notIndexable
  | stringBounds
  | notStruct
  | noMember
  | blobIndex
  | arrayIndex
  | notArray

/-- A value outside the domain of an operation. An `overflow`, the difference of two integers that is
none, is not reported: it stops the program. -/
inductive DomainFault where
  | integerDivision
  | division
  | modulus
  | factTooBig
  | pow
  | sqrtNegative
  | byteCount
  | overflow

/-- A request that the host refused, in words of its own if it likes, or the user cancelled. -/
inductive HostFault where
  | noData
  | outsideFile (address : Int64)
  | reported (text : String)
  | noDialog (f : Function)
  | cancelled (f : Function)
  | unavailable (f : Function)

inductive MissingOperand where
  | expression
  | afterComma
  | assigned (op : Option Arith)
  | ifBranch
  | elseBranch
  | either
  | both
  | second (op : BinaryOp)
  | prefixed (op : PrefixOp)
  | index
  | afterParen
  | argument (f : Function) (position : Nat)
  | secondArgument (f : Function)

/-- An error of an evaluation. `notImplemented` says that no operand starts here; whoever asked for
the operand turns it into `missing`. -/
inductive EvalError where
  | lexical (fault : LexicalFault)
  | grammar (fault : GrammarFault)
  | type (fault : TypeFault)
  | symbol (fault : SymbolFault)
  | domain (fault : DomainFault)
  | host (fault : HostFault)
  | notImplemented
  | missing (operand : MissingOperand)
  | tooComplex

def LexicalFault.message : LexicalFault → String
  | unexpected c => "Unexpected character \"" ++ c.toString ++ "\""
  | unexpectedPair a b => "Unexpected characters \"" ++ a.toString ++ b.toString ++ "\""
  | invalidNumber text => "Invalid number: " ++ text
  | hexTooBig digits => "Overflow: Hex integer \"" ++ digits ++ "\" too big"
  | tooBig digits => "Overflow: \"" ++ digits ++ "\" too big"
  | characterNotClosed => "Expected ' after character constant"
  | badEscape c => "Unexpected character constant escape sequence \\" ++ c.toString
  | stringNotClosed => "Unterminated string constant"

def GrammarFault.message : GrammarFault → String
  | trailing token => "Unexpected " ++ token.text ++ " after end of expression"
  | parenExpected => "Closing parenthesis expected"
  | bracketExpected => "Closing bracket (]) expected"
  | colonExpected => "Expected colon (:) for conditional (?:) operator"
  | reserved word => "\"" ++ word ++ "\" is a reserved symbol"
  | dotExpected => "Dot operator (.) expected after struct"
  | indexExpected => "Array index expected after for"
  | symbolExpected => "Symbol expected"
  | openingExpected name => "Opening parenthesis expected after \"" ++ name ++ "\""
  | closingExpected name => "Closing parenthesis expected for \"" ++ name ++ "\""
  | secondArgument f => "Expected comma and 2nd parameter for " ++ f.quotedName
  | midClosing => "Closing parenthesis/3rd parameter expected for \"mid\""

def Step.preName : Step → String
  | .increment => "Pre-increment (++)"
  | .decrement => "Pre-decrement (--)"

def Step.postName : Step → String
  | .increment => "Post-increment (++)"
  | .decrement => "Post-decrement (--)"

def TypeFault.message : TypeFault → String
  | operands .add => "Illegal operand types for addition"
  | operands .sub => "Illegal operand types for subtraction"
  | operands .mul => "Illegal operand types for multiplication"
  | operands .div => "Illegal operand types for division"
  | operands .rem => "Modulus operands must be integers"
  | operands .shiftLeft => "Left shift operands must be integers"
  | operands .shiftRight => "Right shift operands must be integers"
  | operands .bitAnd => "Bitwise AND requires integer operands"
  | operands .bitXor => "Exclusive OR (^) requires integer operands"
  | operands .bitOr => "Bitwise OR requires integer operands"
  | comparison => "Illegal operand types for comparison"
  | compound op => "Incompatible types for " ++ assignSymbol (some op)
  | prefixed .minus => "Invalid operand for negation"
  | prefixed .plus => "Invalid operand for unary +"
  | prefixed .not => "NOT operator must have a BOOLEAN operand"
  | prefixed .bitNot => "Bitwise NOT operator must have an INTEGER operand"
  | condition => "Condition for ternary operator must be BOOLEAN"
  | either => "Operands for OR (||) must be BOOLEAN"
  | both => "Operands for AND (&&) must be BOOLEAN"
  | assignTarget none => "Assignment requires a variable name on the left of the equals sign"
  | assignTarget op => "Variable name required on the left of " ++ assignSymbol op
  | preStep s => s.preName ++ " requires an integer variable"
  | postStep s => s.postName ++ " requires an integer variable"
  | index => "Array index must be an integer"
  | elementIndex => "Array (for) index must be an integer"
  | argument f position => f.argumentMessage position

def SymbolFault.message : SymbolFault → String
  | unknown name => "Unknown symbol \"" ++ name ++ "\""
  | notInFile name => "Symbol \"" ++ name ++ "\" not in file"
  | notIndexable => "Unexpected array index"
  | stringBounds => "Index on string out of bounds"
  | notStruct => "Dot operator (.) must only be used with struct"
  | noMember => "Unrecognised member name for struct"
  | blobIndex => "Invalid index into \"none\" DATA element"
  | arrayIndex => "Invalid array (for) index"
  | notArray => "Array index on non-array symbol"

def DomainFault.message : DomainFault → String
  | integerDivision => "Integer divide by zero"
  | division => "Divide by zero"
  | modulus => "Divide by zero (modulus operation)"
  | factTooBig => "Parameter for \"fact\" is too big"
  | pow => "Invalid parameters to pow"
  | sqrtNegative => "Parameter for \"sqrt\" must not be negative"
  | byteCount => "Byte count for \"get\" must be from 1 to 8"
  | overflow => "attempt to subtract with overflow"

def HostFault.message : HostFault → String
  | noData => "Reading file data is not supported"
  | outsideFile address => "Address " ++ Numeral.signed address.toInt ++ " is not in the file"
  | reported text => text
  | noDialog f => "No dialog available for " ++ f.quotedName
  | cancelled f => "Input cancelled for " ++ f.quotedName
  | unavailable f => f.quotedName ++ " is not available"

def MissingOperand.message : MissingOperand → String
  | expression => "Expected expression"
  | afterComma => "Expected another expression after comma"
  | assigned none => "Expected expression for assignment"
  | assigned op => "Expected expression for " ++ assignSymbol op
  | ifBranch => "Expected \"if\" expression for conditional (?:) operator"
  | elseBranch => "Expected \"else\" expression for conditional (?:) operator"
  | either => "Expected 2nd operand for OR (||)"
  | both => "Expected 2nd operand for AND (&&)"
  | second (.arith .mul) => "Expected 2nd operand for multiplication"
  | second (.arith .div) => "Expected 2nd operand for division"
  | second (.arith .rem) => "Expected 2nd operand of modulus"
  | second (.arith .add) => "Expected 2nd operand for addition"
  | second (.arith .sub) => "Expected 2nd operand of subtraction"
  | second (.arith .shiftLeft) => "Expected 2nd operand of shift left"
  | second (.arith .shiftRight) => "Expected 2nd operand of shift right"
  | second (.arith .bitAnd) => "Expected 2nd operand of bitwise AND (&)"
  | second (.arith .bitXor) => "Expected 2nd operand of exclusive OR (^)"
  | second (.arith .bitOr) => "Expected 2nd operand of bitwise OR (|)"
  | second (.relation _) => "Expected 2nd operand for comparison"
  | prefixed .minus => "Expected number after minus"
  | prefixed .plus => "Expected number after +"
  | prefixed .not => "Expected boolean for NOT (!)"
  | prefixed .bitNot => "Expected integer for bitwise NOT (~)"
  | index => "Expected array index"
  | afterParen => "Expected expression after ("
  | argument f position => f.missingMessage position
  | secondArgument f => "Expected comma and 2nd parameter for " ++ f.quotedName

def unnamedOperand : String := "Not implemented"

def EvalError.message : EvalError → String
  | lexical fault => fault.message
  | grammar fault => fault.message
  | type fault => fault.message
  | symbol fault => fault.message
  | domain fault => fault.message
  | host fault => fault.message
  | notImplemented => unnamedOperand
  | missing operand => operand.message
  | tooComplex => "Expression too complex"

/-- Whether the program stops at an error instead of reporting it. No level replaces such an error. -/
def EvalError.stops : EvalError → Bool
  | domain .overflow => true
  | _ => false

/-- The wording of an error, in which all missing operands look alike if `legacy` is set. -/
def EvalError.shownAs (legacy : Bool) : EvalError → String
  | missing operand => if legacy then unnamedOperand else operand.message
  | e => e.message

/-- Names the operand that turned out to be missing; every other error stays as it is. -/
def EvalError.orMissing (operand : MissingOperand) : EvalError → EvalError
  | notImplemented => missing operand
  | e => e

def EvalError.orNoVariable (s : Step) : EvalError → EvalError
  | notImplemented => type (.preStep s)
  | e => e

namespace Function

def commaError : Function → EvalError
  | mid => .missing (.secondArgument mid)
  | f => .grammar (.secondArgument f)

def unclosedError (f : Function) (supplied : Nat) : EvalError :=
  if f = mid ∧ supplied = 2 then .grammar .midClosing else .grammar (.closingExpected f.name)

def checkArgument (f : Function) (position : Nat) (v : Value) : Except EvalError Unit :=
  if (f.argumentType position).admits v then .ok () else .error (.type (.argument f position))

end Function

end TemplateCalc
