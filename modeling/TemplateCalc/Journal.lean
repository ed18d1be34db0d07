import TemplateCalc.Operator
import TemplateCalc.Value.Display

/-!
The journal: what happened during a run, in order. Some entries are only shown when the user asks for
more detail; texts shown in a dialog always are.
-/

set_option autoImplicit false

namespace TemplateCalc

inductive Level where
  | warn | info | debug | trace
  deriving DecidableEq, Repr

def Level.name : Level → String
  | .warn => "WARN"
  | .info => "INFO"
  | .debug => "DEBUG"
  | .trace => "TRACE"

def Level.rank : Level → Nat
  | .warn => 0
  | .info => 1
  | .debug => 2
  | .trace => 3

inductive QuestionKind where
  | integer | text | choice
  deriving DecidableEq, Repr

def QuestionKind.name : QuestionKind → String
  | .integer => "integer"
  | .text => "string"
  | .choice => "yes/no"

inductive Event where
  | lookedUp (name : String) (index : Nat) (found : Option Value)
  | assigned (name : String) (op : Option Arith) (value : Value)
  | asking (kind : QuestionKind) (prompt : String)
  | failed (text message : String)
  | settingsChosen (path : String)
  | settingsRead (radix : Nat)
  | dataRead (size : Nat) (path : String)
  | shown (text : String)

abbrev Journal := Array Event

namespace Event

/-- The level of an entry; `none` for a text that is always shown. -/
def level? : Event → Option Level
  | lookedUp .. | assigned .. | asking .. => some .trace
  | failed .. | settingsRead .. | dataRead .. => some .debug
  | settingsChosen .. => some .info
  | shown .. => none

def source : Event → String
  | lookedUp .. | assigned .. | asking .. | failed .. => "hexpr::expr::eval"
  | settingsRead .. => "hexpr::config"
  | settingsChosen .. => "hexpr::cli"
  | dataRead .. | shown .. => "hexpr"

def message : Event → String
  | lookedUp name index found =>
    let found := found.elim "None" fun v => "Some(" ++ v.detailed ++ ")"
    "resolve " ++ Text.quoted name ++ " index " ++ Numeral.decimal index ++ " -> " ++ found
  | assigned name op value => name ++ " " ++ assignSymbol op ++ " -> " ++ value.detailed
  | asking kind prompt => "prompt for " ++ kind.name ++ ": " ++ Text.quoted prompt
  | failed text message => "evaluating " ++ Text.quoted text ++ " failed: " ++ message
  | settingsChosen path => "using config " ++ path
  | settingsRead radix => "loaded config: radix " ++ Numeral.decimal radix
  | dataRead size path => "loaded " ++ Numeral.decimal size ++ " bytes from " ++ path
  | shown text => text

def output (detail : Level) (e : Event) : String :=
  match e.level? with
  | none => e.message
  | some level =>
    if level.rank ≤ detail.rank then
      level.name ++ " " ++ e.source ++ ": " ++ e.message ++ "\n"
    else ""

end Event

end TemplateCalc
