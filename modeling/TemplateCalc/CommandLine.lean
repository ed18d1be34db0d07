import TemplateCalc.Journal
import TemplateCalc.Settings.Load

/-!
The command line: its options, and how arguments are read.

An option with a value takes it from the same argument or from the next one; options of one letter can
share an argument. A value that starts with a dash must stand in the argument of its option.
-/

set_option autoImplicit false

namespace TemplateCalc

structure CommandLine where
  expressions : List String := []
  radix : Option Nat := none
  separators : Bool := false
  noSideEffects : Bool := false
  legacy : Bool := false
  format : String := ""
  size : Int := 4
  unsigned : Bool := false
  config : Option String := none
  noConfig : Bool := false
  data : Option String := none
  verbose : Nat := 0
  deriving DecidableEq, Repr

inductive UsageError where
  | unknownArgument
  | invalidValue
  | valueValidation
  | argumentConflict
  | tooManyValues
  | displayHelp
  | displayVersion
  deriving DecidableEq, Repr

def UsageError.exitCode : UsageError → Nat
  | displayHelp | displayVersion => 0
  | _ => 2

inductive ConfigChoice where
  | search
  | skip
  | explicit (path : String)
  deriving DecidableEq, Repr

namespace CommandLine

inductive ValueOption where
  | eval | radix | format | size | config | data
  deriving DecidableEq, Repr

inductive Flag where
  | separators | noSideEffects | legacy | unsigned | noConfig | verbose | help | version
  deriving DecidableEq, Repr

inductive Switch where
  | value (o : ValueOption)
  | flag (f : Flag)
  deriving DecidableEq, Repr

def long? (name : String) : Option Switch :=
  [("eval", Switch.value .eval), ("radix", .value .radix), ("format", .value .format),
    ("size", .value .size), ("config", .value .config), ("data", .value .data),
    ("separators", .flag .separators), ("no-side-effects", .flag .noSideEffects),
    ("legacy", .flag .legacy), ("unsigned", .flag .unsigned), ("no-config", .flag .noConfig),
    ("verbose", .flag .verbose), ("help", .flag .help), ("version", .flag .version)].lookup name

def short? : Char → Option Switch
  | 'e' => some (.value .eval)
  | 'r' => some (.value .radix)
  | 's' => some (.flag .separators)
  | 'f' => some (.value .format)
  | 'u' => some (.flag .unsigned)
  | 'c' => some (.value .config)
  | 'd' => some (.value .data)
  | 'v' => some (.flag .verbose)
  | 'h' => some (.flag .help)
  | 'V' => some (.flag .version)
  | _ => none

def integer? (s : String) : Option Int :=
  let digits? (cs : List Char) : Option Int :=
    if !cs.isEmpty && cs.all Char.isDigit then some (Numeral.value 10 cs : Int) else none
  match s.toList with
  | '-' :: cs => (digits? cs).map (- ·)
  | '+' :: cs => digits? cs
  | cs => digits? cs

/-- What has been read so far: the result, the options that were given, and the option whose value is
still to come or still to be looked at. -/
structure Reading where
  line : CommandLine := {}
  given : List Switch := []
  pending : Option (ValueOption × Option String) := none

/-- Gives an option its value. All but expressions can be given once. -/
def Reading.setValue (r : Reading) (o : ValueOption) (value : String) :
    Except UsageError Reading :=
  let line := r.line
  let keep (line : CommandLine) : Except UsageError Reading :=
    .ok { line := line, given := .value o :: r.given, pending := none }
  if o ≠ .eval ∧ r.given.contains (.value o) then .error .argumentConflict
  else
    match o with
    | .eval => keep { line with expressions := line.expressions ++ [value] }
    | .format => keep { line with format := value }
    | .radix =>
      match integer? value with
      | some n =>
        if 2 ≤ n ∧ n ≤ 36 then keep { line with radix := some n.toNat }
        else .error .valueValidation
      | none => .error .valueValidation
    | .size =>
      match integer? value with
      | some n =>
        if Int32.minValue.toInt ≤ n ∧ n ≤ Int32.maxValue.toInt then keep { line with size := n }
        else .error .valueValidation
      | none => .error .valueValidation
    | .config =>
      if value.isEmpty then .error .invalidValue else keep { line with config := some value }
    | .data =>
      if value.isEmpty then .error .invalidValue else keep { line with data := some value }

/-- Settles the pending option: its value must be there and is now looked at. -/
def Reading.settle (r : Reading) : Except UsageError Reading :=
  match r.pending with
  | none => .ok r
  | some (_, none) => .error .invalidValue
  | some (o, some value) => r.setValue o value

def Reading.setFlag (r : Reading) (f : Flag) : Except UsageError Reading :=
  let line := r.line
  let keep (line : CommandLine) : Except UsageError Reading :=
    .ok { r with line := line, given := .flag f :: r.given }
  if f ≠ .verbose ∧ r.given.contains (.flag f) then .error .argumentConflict
  else
    match f with
    | .separators => keep { line with separators := true }
    | .noSideEffects => keep { line with noSideEffects := true }
    | .legacy => keep { line with legacy := true }
    | .unsigned => keep { line with unsigned := true }
    | .noConfig => keep { line with noConfig := true }
    | .verbose => keep { line with verbose := min (line.verbose + 1) 255 }
    | .help => .error .displayHelp
    | .version => .error .displayVersion

/-- Reads the letters of an argument with one dash. What follows the letter of an option with a value
is the value, without an equals sign in front of it. -/
def Reading.letters (r : Reading) : List Char → Except UsageError Reading
  | [] => .ok r
  | c :: cs =>
    match short? c with
    | none => .error .unknownArgument
    | some (.flag f) => do
      let r ← (← r.settle).setFlag f
      r.letters cs
    | some (.value o) => do
      let r ← r.settle
      match cs with
      | [] => .ok { r with pending := some (o, none) }
      | '=' :: value => r.setValue o (String.ofList value)
      | value => r.setValue o (String.ofList value)

def Reading.longOption (r : Reading) (cs : List Char) : Except UsageError Reading :=
  let name := String.ofList (cs.takeWhile (· != '='))
  let value : Option String :=
    match cs.dropWhile (· != '=') with
    | _ :: value => some (String.ofList value)
    | [] => none
  match long? name, value with
  | none, _ => .error .unknownArgument
  | some (.flag f), none => do (← r.settle).setFlag f
  | some (.flag _), some _ => .error .tooManyValues
  | some (.value o), some value => do (← r.settle).setValue o value
  | some (.value o), none => do
    let r ← r.settle
    return { r with pending := some (o, none) }

/-- Reads one argument. An argument without a dash is the value of a pending option and nothing
else. -/
def Reading.argument (r : Reading) (arg : String) : Except UsageError Reading :=
  match arg.toList, r.pending with
  | '-' :: '-' :: cs, _ => r.longOption cs
  | '-' :: c :: cs, _ => r.letters (c :: cs)
  | _, some (o, none) => .ok { r with pending := some (o, some arg) }
  | _, _ => .error .unknownArgument

/-- Reads the arguments. Behind `--` nothing may follow. -/
def Reading.arguments (r : Reading) : List String → Except UsageError Reading
  | [] => r.settle
  | "--" :: rest => if rest.isEmpty then r.settle else .error .unknownArgument
  | arg :: rest => do
    let r ← r.argument arg
    r.arguments rest

def ofArguments (args : List String) : Except UsageError CommandLine := do
  let r ← Reading.arguments {} args
  if r.line.config.isSome && r.line.noConfig then .error .argumentConflict else return r.line

def configChoice (c : CommandLine) : ConfigChoice :=
  match c.config, c.noConfig with
  | some path, _ => .explicit path
  | none, true => .skip
  | none, false => .search

def detail (c : CommandLine) : Level :=
  match c.verbose with
  | 0 => .warn
  | 1 => .info
  | 2 => .debug
  | _ => .trace

def override (c : CommandLine) (s : Settings) : Settings :=
  { s with eval :=
    { s.eval with
      radix := c.radix.getD s.eval.radix
      digitSeparators := s.eval.digitSeparators || c.separators
      sideEffects := s.eval.sideEffects && !c.noSideEffects
      legacyMessages := s.eval.legacyMessages || c.legacy } }

end CommandLine

end TemplateCalc
