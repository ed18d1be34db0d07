import TemplateCalc.Calculator
import TemplateCalc.CommandLine
import TemplateCalc.Console.Dialog
import TemplateCalc.Render

/-!
A run of the program on the console.

With expressions on the command line, these are evaluated in order. Otherwise every line of the input
is an expression or a command; lines that answer questions are taken from the same input.
-/

set_option autoImplicit false

namespace TemplateCalc.Console

structure World where
  /-- Reads a file. -/
  read : String → FileContent
  /-- The path of the user's own settings, if there is a home directory. -/
  userSettings : Option String
  /-- The input. -/
  input : List Line
  /-- The seed of random numbers until another one is set. -/
  seed : UInt64
  /-- The day count of the present. -/
  now : Float

structure Output where
  stdout : String := ""
  stderr : String := ""
  exitCode : Nat := 0
  deriving DecidableEq, Repr

def Output.print (o : Output) (line : String) : Output :=
  { o with stdout := o.stdout ++ line ++ "\n" }

def Output.report (o : Output) (text : String) : Output :=
  { o with stderr := o.stderr ++ text }

def Output.reportAll (o : Output) (detail : Level) (journal : Journal) : Output :=
  o.report (String.join (journal.toList.map (Event.output detail)))

def Output.fail (o : Output) (text : String) (code : Nat) : Output :=
  { o.report ("hexpr: " ++ text ++ "\n") with exitCode := code }

/-- Ends a run in the middle of an evaluation. The place in the program is not named here. -/
def Output.abort (o : Output) (text : String) : Output :=
  { o.report (text ++ "\n") with exitCode := 101 }

/-! ### Settings -/

/-- The file with the settings, if one is used. The user's own need not exist. -/
def settingsPath? (world : World) (line : CommandLine) : Option String :=
  match line.configChoice with
  | .skip => none
  | .explicit path => some path
  | .search =>
    match world.userSettings with
    | none => none
    | some path => if (world.read path).isPresent then some path else none

def loadFile (world : World) (path : String) : Except Settings.LoadError Settings :=
  match (world.read path).text with
  | .error reason => .error (.invalid 0 (path ++ ": " ++ reason))
  | .ok source => Settings.load source

def settings (world : World) (line : CommandLine) :
    Journal × Except Settings.LoadError Settings :=
  match settingsPath? world line with
  | none => (#[], .ok (line.override {}))
  | some path =>
    match loadFile world path with
    | .error e => (#[.settingsChosen path], .error e)
    | .ok s => (#[.settingsChosen path, .settingsRead s.eval.radix], .ok (line.override s))

/-! ### Evaluations -/

structure Setup where
  line : CommandLine
  settings : Settings
  env : Surroundings (List Line)

/-- The state of a run: the calculator, whose dialog holds the input that is left, and the output. -/
structure State where
  calculator : Calculator (List Line)
  output : Output := {}

inductive Verdict where
  | worked
  | failed
  | stopped
  deriving DecidableEq, Repr

def evaluateLine (setup : Setup) (s : State) (text : String) : Verdict × State :=
  let outcome := s.calculator.evaluate setup.env setup.settings.eval text
  match outcome.result with
  | .ok v =>
    let output := s.output.reportAll setup.line.detail outcome.journal
    let shown := v.render setup.line.format setup.line.size setup.line.unsigned setup.settings.format
    (.worked, ⟨outcome.calculator, output.print shown⟩)
  | .error e =>
    if e.stops then
      -- the program does not live to note the failure, the last entry of the journal
      let output := s.output.reportAll setup.line.detail outcome.journal.pop
      (.stopped, ⟨outcome.calculator, output.abort e.message⟩)
    else
      let output := s.output.reportAll setup.line.detail outcome.journal
      let message := outcome.calculator.lastError.getD ""
      (.failed, ⟨outcome.calculator, output.report ("error: " ++ message ++ "\n")⟩)

/-- Evaluates the expressions of the command line. The exit code is 1 if one of them failed. -/
def evaluateAll (setup : Setup) (s : State) : List String → State
  | [] => s
  | text :: rest =>
    match evaluateLine setup s text with
    | (.worked, s) => evaluateAll setup s rest
    | (.failed, s) => evaluateAll setup { s with output := { s.output with exitCode := 1 } } rest
    | (.stopped, s) => s

/-! ### Lines of input -/

inductive Command where
  | nothing
  | quit
  | showVariables
  | seed (n : UInt64)
  | unknown (name : String)
  | evaluate (text : String)
  deriving DecidableEq, Repr

def Command.ofLine (line : String) : Command :=
  let text := Text.trim line
  let cs := text.toList
  let name := String.ofList (cs.takeWhile (· != ' '))
  let rest := String.ofList ((cs.dropWhile (· != ' ')).drop 1)
  if name = "" then .nothing
  else if name = ":quit" ∨ name = ":q" then .quit
  else if name = ":vars" then .showVariables
  else if name = ":seed" then .seed (Strings.leadingInteger rest 10).toUInt64
  else if name.startsWith ":" then .unknown name
  else .evaluate text

def listVariables (s : State) : State :=
  s.calculator.vars.sorted.foldl (fun s (name, value) =>
    { s with output := s.output.print (name ++ " = " ++ value.text ++ " (" ++ value.typeName ++ ")") })
    s

/-- Carries out a command; says whether the run goes on. -/
def Command.carryOut (setup : Setup) (s : State) : Command → Bool × State
  | .nothing => (true, s)
  | .quit => (false, s)
  | .showVariables => (true, listVariables s)
  | .seed n => (true, { s with calculator := { s.calculator with random := Random.ofSeed n } })
  | .unknown name =>
    (true, { s with output := s.output.report ("hexpr: unknown command " ++ name ++ "\n") })
  | .evaluate text =>
    let (verdict, s) := evaluateLine setup s text
    (verdict != .stopped, s)

/-- Works through the input line by line. The fuel bounds the number of lines. The prompt in front of
every line that is typed at a terminal is left out. -/
def interact (setup : Setup) : (fuel : Nat) → State → State
  | 0, s => s
  | fuel + 1, s =>
    match s.calculator.dialog with
    | [] => s
    | line :: rest =>
      let s := { s with calculator := { s.calculator with dialog := rest } }
      match line with
      | .garbled => { s with output := s.output.fail notTextReason 1 }
      | .text line =>
        match (Command.ofLine line).carryOut setup s with
        | (true, s) => interact setup fuel s
        | (false, s) => s

/-! ### Runs -/

def dataBytes (world : World) (line : CommandLine) : Except String (Array UInt8 × Journal) :=
  match line.data with
  | none => .ok (#[], #[])
  | some path =>
    match (world.read path).toExcept with
    | .error reason => .error (path ++ ": " ++ reason)
    | .ok content => .ok (content.data, #[.dataRead content.size path])

def carryOut (world : World) (line : CommandLine) : Output :=
  let (journal, found) := settings world line
  let output := Output.reportAll {} line.detail journal
  match found with
  | .error e => output.fail ("config: " ++ e.text) 2
  | .ok settings =>
    match dataBytes world line with
    | .error reason => output.fail reason 2
    | .ok (data, journal) =>
      let table : SymbolTable := { data }
      let setup : Setup := ⟨line, settings, ⟨table.host, some dialog, world.now⟩⟩
      let state : State :=
        { calculator := { random := Random.ofSeed world.seed, dialog := world.input }
          output := output.reportAll line.detail journal }
      if line.expressions.isEmpty then (interact setup (world.input.length + 1) state).output
      else (evaluateAll setup state line.expressions).output

def run (world : World) (args : List String) : Except UsageError Output :=
  (CommandLine.ofArguments args).map (carryOut world)

end TemplateCalc.Console
