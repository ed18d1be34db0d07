import TemplateCalc.Function.Apply
import TemplateCalc.Session.Level
import TemplateCalc.Text.Lowercase

/-!
Operands: constants, names, function calls, inquiries and parentheses, with the operators in front of
and behind them.
-/

set_option autoImplicit false

namespace TemplateCalc.Session

variable {σ : Type}

def isCloseParen : Token → Bool
  | .closeParen => true
  | _ => false

def isCloseBracket : Token → Bool
  | .closeBracket => true
  | _ => false

def index (nested : Nested σ) (effects : Bool) (fault : TypeFault) : Eval σ Int64 := do
  discard advance
  let operand ← orMissing .index (comma nested effects)
  match operand.value with
  | .int n =>
    expect isCloseBracket .bracketExpected
    return n
  | _ => throw (.type fault)

/-! ### Symbols of the host -/

def memberNamed (env : Surroundings σ) (parent : Symbol) (name : String) : Eval σ Symbol := do
  match ← lookup env name (some parent) 0 with
  | some symbol => return symbol
  | none => throw (.symbol .noMember)

def member (env : Surroundings σ) (parent : Symbol) : Eval σ Symbol := do
  discard advance
  match ← advance with
  | .word name | .quoted name => memberNamed env parent name
  | _ => throw (.grammar .symbolExpected)

def elementFault : Value → SymbolFault
  | .blob => .blobIndex
  | _ => .arrayIndex

def element (env : Surroundings σ) (nested : Nested σ) (effects : Bool) (parent : Symbol) :
    Eval σ Symbol := do
  let i ← index nested effects .elementIndex
  if i < 0 then
    throw (.symbol (elementFault parent.value))
  else
    match ← lookup env "" (some parent) i.toInt.toNat with
    | some symbol => return symbol
    | none => throw (.symbol (elementFault parent.value))

/-- The value of a symbol behind which no member or element is taken. A container has none. -/
def scalar : Value → Eval σ Value
  | .struct => throw (.grammar .dotExpected)
  | .array | .blob => throw (.grammar .indexExpected)
  | value => return value

def navigate (env : Surroundings σ) (nested : Nested σ) (effects : Bool) :
    List Token → Symbol → Eval σ Value
  | [], symbol => scalar symbol.value
  | _ :: rounds, symbol => do
    match symbol.value, ← peek with
    | .struct, .dot =>
      let symbol ← member env symbol
      navigate env nested effects rounds symbol
    | .array, .openBracket | .blob, .openBracket =>
      let symbol ← element env nested effects symbol
      navigate env nested effects rounds symbol
    | value, _ => scalar value

/-! ### Names -/

def elementName (name : String) (i : Int64) : String :=
  name ++ "[" ++ Numeral.signed i.toInt ++ "]"

/-- A name, or the name of an element if an index follows. -/
def indexedName (nested : Nested σ) (effects : Bool) (name : String) : Eval σ String := do
  match ← peek with
  | .openBracket => return elementName name (← index nested effects .index)
  | _ => return name

/-- A variable, a symbol of the host, or a variable that is about to get its first value. -/
def named (env : Surroundings σ) (nested : Nested σ) (stepWaits effects : Bool) (name : String) :
    Eval σ Operand := do
  match ← varValue? name with
  | some value => return { value, target := some name }
  | none =>
    match ← lookup env name none 0 with
    | some symbol =>
      let value ← navigate env nested effects (← get).ahead symbol
      return { value }
    | none =>
      let name ← indexedName nested effects name
      match ← varValue? name with
      | some value => return { value, target := some name }
      | none =>
        let token ← peek
        if stepWaits || token.isAssign || token.isStep then
          return { value := .none, target := some name }
        else
          throw (.symbol (.unknown name))

def isUnbound (env : Surroundings σ) (word : String) : Eval σ Bool := do
  if isKeyword (Text.lowercase word) then
    return false
  else
    match ← varValue? word with
    | some _ => return false
    | none => return (← lookup env word none 0).isNone

/-! ### Inquiries -/

inductive Subject where
  | var (name : String) (value : Value)
  | symbol (s : Symbol)
  | missing (name : String)

def pathEnd (symbol : Symbol) : Eval σ Symbol := do
  match ← peek with
  | .dot => throw (.symbol .notStruct)
  | .openBracket => throw (.symbol .notArray)
  | _ => return symbol

def pathFrom (env : Surroundings σ) (nested : Nested σ) (effects : Bool) :
    List Token → Symbol → Eval σ Symbol
  | [], symbol => pathEnd symbol
  | _ :: rounds, symbol => do
    match ← peek, symbol.value with
    | .dot, .struct =>
      let symbol ← member env symbol
      pathFrom env nested effects rounds symbol
    | .openBracket, .array | .openBracket, .blob =>
      let symbol ← element env nested effects symbol
      pathFrom env nested effects rounds symbol
    | _, _ => pathEnd symbol

def subject (env : Surroundings σ) (nested : Nested σ) (effects : Bool) (name : String) :
    Eval σ Subject := do
  match ← varValue? name with
  | some value => return .var name value
  | none =>
    match ← lookup env name none 0 with
    | some symbol => return .symbol (← pathFrom env nested effects (← get).ahead symbol)
    | none =>
      let name ← indexedName nested effects name
      match ← varValue? name with
      | some value => return .var name value
      | none => return .missing name

def answer : Inquiry → Subject → Except EvalError Value
  | .defined, .missing _ => .ok (.bool false)
  | .defined, _ => .ok (.bool true)
  | .sizeof, .var _ value => .ok (.int (Int64.ofNat value.storage))
  | .sizeof, .symbol s => .ok (.int s.size)
  | .addressof, .symbol s => .ok (.int s.address)
  | .addressof, .var name _ | .addressof, .missing name => .error (.symbol (.notInFile name))
  | .string, .var _ value => .ok (.str value.text)
  | .string, .symbol s => .ok (.str s.text)
  | .sizeof, .missing name | .string, .missing name => .error (.symbol (.unknown name))

def subjectName? : Token → Option String
  | .word s => some (if isKeyword (Text.lowercase s) then Text.lowercase s else s)
  | .quoted s => some s
  | _ => none

def subjectName : Eval σ String := do
  match subjectName? (← advance) with
  | some name => return name
  | none => throw (.grammar .symbolExpected)

/-- An inquiry behind its keyword. Only `defined` can do without parentheses. -/
def inquire (env : Surroundings σ) (nested : Nested σ) (effects : Bool) (inquiry : Inquiry) :
    Eval σ Operand := do
  match ← peek with
  | .openParen =>
    discard advance
    let name ← subjectName
    let found ← subject env nested effects name
    expect isCloseParen (.closingExpected inquiry.name)
    return { value := ← ofExcept (answer inquiry found) }
  | _ =>
    if inquiry = .defined then
      let name ← subjectName
      let found ← subject env nested effects name
      return { value := ← ofExcept (answer inquiry found) }
    else
      throw (.grammar (.openingExpected inquiry.name))

/-! ### Function calls -/

/-- The arguments of a call behind the opening parenthesis; `args` are those read so far. -/
def arguments (nested : Nested σ) (effects : Bool) (f : Function) :
    List Token → (args : List Value) → Eval σ (List Value)
  | [], args => pure args
  | _ :: rounds, args => do
    let operand ← orMissing (.argument f args.length) (assign nested effects)
    ofExcept (f.checkArgument args.length operand.value)
    let args := args ++ [operand.value]
    match ← peek, f.arity.2.all (args.length < ·) with
    | .comma, true =>
      discard advance
      arguments nested effects f rounds args
    | _, _ =>
      if args.length < f.arity.1 then throw f.commaError else return args

def ask {α : Type} (env : Surroundings σ) (f : Function) (kind : QuestionKind) (prompt : String)
    (question : Dialog σ → σ → Reply α σ) : Eval σ α := do
  note (.asking kind prompt)
  match env.dialog with
  | none => throw (.host (.noDialog f))
  | some dialog =>
    let s ← get
    let reply := question dialog s.dialog
    set { s with dialog := reply.state }
    note (.shown reply.shown)
    match reply.answer with
    | some a => return a
    | none => throw (.host (.cancelled f))

/-- The result of a function that depends on the host, the user or the random source. Without effects
no question is asked and the initial value is the answer. -/
def hosted (env : Surroundings σ) (effects : Bool) (f : Function) (args : List Value) :
    Eval σ Value := do
  let prompt := Function.textArg args 0 ""
  match f with
  | .rand =>
    let s ← get
    let (word, random) := s.random.next
    set { s with random := random }
    return .int word.toInt64
  | .get =>
    let count := Function.intArg args 1 0
    if 1 ≤ count ∧ count ≤ 8 then
      let bytes ← ofExcept (env.host.readBytes (Function.intArg args 0 0) count.toInt.toNat)
      return .int (Bits.wordOfBytes (bytes.take 8))
    else
      throw (.domain .byteCount)
  | .getInt =>
    let initial := Function.intArg args 1 0
    let least := Function.intArg args 2 Int64.minValue
    let greatest := Function.intArg args 3 Int64.maxValue
    if effects then
      return .int (← ask env f .integer prompt fun d => d.askInteger prompt initial least greatest)
    else
      return .int initial
  | .getString =>
    let initial := Function.textArg args 1 ""
    if effects then
      return .str (← ask env f .text prompt fun d => d.askText prompt initial)
    else
      return .str initial
  | .getBool =>
    let yes := Function.textArg args 1 "Yes"
    let no := Function.textArg args 2 "No"
    if effects then
      return .bool (← ask env f .choice prompt fun d => d.askChoice prompt yes no)
    else
      return .bool false
  | f => throw (.host (.unavailable f))

def applyFunction (env : Surroundings σ) (effects : Bool) (f : Function) (args : List Value) :
    Eval σ Value :=
  match f.result? env.now args with
  | some result => ofExcept result
  | none => hosted env effects f args

def closeCall (env : Surroundings σ) (effects : Bool) (f : Function) (args : List Value) :
    Eval σ Operand := do
  match ← peek with
  | .closeParen =>
    discard advance
    return { value := ← applyFunction env effects f args }
  | _ => throw (f.unclosedError args.length)

/-- A call behind the function's name. Every argument is checked as soon as it is evaluated. -/
def call (env : Surroundings σ) (nested : Nested σ) (effects : Bool) (f : Function) :
    Eval σ Operand := do
  match ← peek with
  | .openParen =>
    discard advance
    if f.arity.2 = some 0 then
      closeCall env effects f []
    else
      let args ← arguments nested effects f (← get).ahead []
      closeCall env effects f args
  | _ => throw (.grammar (.openingExpected f.name))

/-! ### Operands -/

def circleConstant : Float := 3.141592653589793

/-- A word: a constant, a reserved word, an inquiry, a function or a name. Only names keep the case
of their letters. -/
def wordOperand (env : Surroundings σ) (nested : Nested σ) (stepWaits effects : Bool)
    (word : String) : Eval σ Operand := do
  let small := Text.lowercase word
  if small = "true" then return { value := .bool true }
  else if small = "false" then return { value := .bool false }
  else if small = "pi" then return { value := .real circleConstant }
  else if reservedWords.contains small then throw (.grammar (.reserved small))
  else
    match Inquiry.ofName? small, Function.ofName? small with
    | some inquiry, _ => inquire env nested effects inquiry
    | none, some f => call env nested effects f
    | none, none => named env nested stepWaits effects word

def primary (env : Surroundings σ) (nested : Nested σ) (stepWaits effects : Bool) :
    Eval σ Operand := do
  match ← peek with
  | .int n =>
    discard advance
    return { value := .int n }
  | .real x =>
    discard advance
    return { value := .real x }
  | .str s =>
    discard advance
    return { value := .str s }
  | .quoted name =>
    discard advance
    named env nested stepWaits effects name
  | .word word =>
    discard advance
    wordOperand env nested stepWaits effects word
  | .openParen =>
    discard advance
    let inner ← orMissing .afterParen (comma nested effects)
    expect isCloseParen .parenExpected
    return { value := inner.value }
  | _ => throw .notImplemented

def postfixTail (nested : Nested σ) (effects : Bool) : List Token → Operand → Eval σ Operand
  | [], operand => pure operand
  | _ :: rounds, operand => do
    match ← peek with
    | .openBracket =>
      match operand.value with
      | .str _ =>
        let i ← index nested effects .index
        let value ← ofExcept (operand.value.charAt i)
        postfixTail nested effects rounds { value }
      | _ => throw (.symbol .notIndexable)
    | .dot => throw (.symbol .notStruct)
    | .step s =>
      discard advance
      match operand.target, operand.value with
      | some name, .int n =>
        store effects name (.int (n + s.delta))
        postfixTail nested effects rounds { value := .int n }
      | _, _ => throw (.type (.postStep s))
    | _ => return operand

def postfixed (env : Surroundings σ) (nested : Nested σ) (stepWaits effects : Bool) :
    Eval σ Operand := do
  let operand ← primary env nested stepWaits effects
  postfixTail nested effects (← get).ahead operand

def prefixOp (nested : Nested σ) (effects : Bool) (op : PrefixOp) : Eval σ Operand := do
  discard advance
  let operand ← orMissing (.prefixed op) (nested (.prefixed false) effects)
  return { value := ← ofExcept (op.apply operand.value) }

/-- Whether a step in front of the token in view waits for a name without a value. -/
def stepWaitsFor (env : Surroundings σ) : Token → Eval σ Bool
  | .word word => isUnbound env word
  | _ => return false

def applyPreStep (effects : Bool) (s : Step) (operand : Operand) : Eval σ Operand := do
  match operand.target, operand.value with
  | some name, .int n =>
    store effects name (.int (n + s.delta))
    return { value := .int (n + s.delta) }
  | _, _ => throw (.type (.preStep s))

/-- A step in front of its variable. A name without a value is let through to the step, which then
refuses it. -/
def preStep (env : Surroundings σ) (nested : Nested σ) (effects : Bool) (s : Step) :
    Eval σ Operand := do
  discard advance
  let stepWaits ← stepWaitsFor env (← peek)
  let operand ← tryCatch (nested (.prefixed stepWaits) effects) fun e => throw (e.orNoVariable s)
  applyPreStep effects s operand

def prefixed (env : Surroundings σ) (nested : Nested σ) (stepWaits effects : Bool) :
    Eval σ Operand := do
  match ← peek with
  | .operator (.arith .sub) => prefixOp nested effects .minus
  | .operator (.arith .add) => prefixOp nested effects .plus
  | .bang => prefixOp nested effects .not
  | .tilde => prefixOp nested effects .bitNot
  | .step s => preStep env nested effects s
  | _ => postfixed env nested stepWaits effects

/-! ### Nesting -/

def production (env : Surroundings σ) (nested : Nested σ) : Nested σ
  | .comma, effects => comma nested effects
  | .assign, effects => assign nested effects
  | .ternary, effects => ternary nested effects
  | .prefixed stepWaits, effects => prefixed env nested stepWaits effects

/-- Evaluates a production one level deeper if there is room for `room` more levels. -/
def nest (env : Surroundings σ) : (room : Nat) → Nested σ
  | 0, _, _ => throw .tooComplex
  | room + 1, p, effects => deeper (production env (nest env room) p effects)

def complete (operand : Operand) : Eval σ Value := do
  match ← peek with
  | .finish => return operand.value
  | token => throw (.grammar (.trailing token))

def whole (env : Surroundings σ) (maxDepth : Nat) (effects : Bool) : Eval σ Value := do
  let operand ← orMissing .expression (comma (nest env maxDepth) effects)
  complete operand

end TemplateCalc.Session
