import Std.Time.Zoned
import TemplateCalc.Console.Run

/-!
The program: reads its surroundings, carries out the command line and writes what that leaves.
-/

set_option autoImplicit false

namespace TemplateCalc.Console

def usage : String :=
  "Evaluate binary-template expressions\n\n" ++
  "Usage: hexpr [OPTIONS] [-e <EXPR>]...\n\n" ++
  "Options:\n" ++
  "  -e, --eval <EXPR>      Evaluate this expression and exit; may be repeated\n" ++
  "  -r, --radix <RADIX>    Radix of integer literals without a mark\n" ++
  "  -s, --separators       Allow digit separators in integer literals\n" ++
  "      --no-side-effects  Evaluate without storing assignments or showing prompts\n" ++
  "      --legacy           Report missing operands as \"Not implemented\"\n" ++
  "  -f, --format <FORMAT>  Format for displaying results\n" ++
  "      --size <SIZE>      Byte size used when rendering integers and reals [default: 4]\n" ++
  "  -u, --unsigned         Render integers as unsigned\n" ++
  "  -c, --config <FILE>    Config file to load instead of the user's\n" ++
  "      --no-config        Don't load any config file\n" ++
  "  -d, --data <FILE>      File whose bytes get() reads\n" ++
  "  -v, --verbose...       Log more (-v info, -vv debug, -vvv trace)\n" ++
  "  -h, --help             Print help\n" ++
  "  -V, --version          Print version\n"

def usageText : UsageError → String
  | .displayHelp => usage
  | .displayVersion => "hexpr 0.1.0\n"
  | .unknownArgument => "error: unexpected argument\n"
  | .invalidValue => "error: a value is required\n"
  | .valueValidation => "error: invalid value\n"
  | .argumentConflict => "error: these arguments cannot be used together\n"
  | .tooManyValues => "error: unexpected value\n"

def readFile (path : String) : IO FileContent := do
  try
    return .bytes (← IO.FS.readBinFile path)
  catch
    | .noFileOrDirectory .. => return .missing
    | .inappropriateType _ code _ => return if code = 21 then .directory else .blocked
    | e => return .unreadable (toString e)

def findUserSettings : IO (Option String) := do
  match ← IO.getEnv "XDG_CONFIG_HOME" with
  | some base => if base.startsWith "/" then return some (base ++ "/hexpr/config.toml")
  | none => pure ()
  return (← IO.getEnv "HOME").map (· ++ "/.config/hexpr/config.toml")

def presentCount : IO Float := do
  let now ← Std.Time.PlainDateTime.now
  let day := now.date
  let time := now.time
  let second := (time.hour.val * 60 + time.minute.val) * 60 + time.second.val
  let moment : Calendar.Moment :=
    { date := ⟨day.year.toInt, day.month.val.toNat, day.day.val.toNat⟩
      second := second.toNat
      milli := (time.nanosecond.val / 1000000).toNat }
  return moment.count

def freshSeed : IO UInt64 := do
  let bytes ← IO.getRandomBytes 8
  return bytes.data.foldl (fun seed b => seed * 256 + b.toUInt64) 0

/-- All input. At a terminal there is none for expressions of the command line. -/
def readInput (line : CommandLine) : IO (List Line) := do
  let stdin ← IO.getStdin
  if !line.expressions.isEmpty && (← stdin.isTty) then return []
  return Line.ofBytes (← stdin.readBinToEnd)

/-- What a command line depends on. Only the files that it names are read. -/
def surroundings (line : CommandLine) : IO World := do
  let userSettings ← findUserSettings
  let paths := line.config.toList ++ userSettings.toList ++ line.data.toList
  let contents ← paths.mapM fun path => return (path, ← readFile path)
  return {
    read := fun path => (contents.lookup path).getD .missing
    userSettings := userSettings
    input := ← readInput line
    seed := ← freshSeed
    now := ← presentCount }

def runArguments (args : List String) : IO Nat := do
  match CommandLine.ofArguments args with
  | .error e =>
    if e.exitCode = 0 then IO.print (usageText e) else IO.eprint (usageText e)
    return e.exitCode
  | .ok line =>
    let output := carryOut (← surroundings line) line
    IO.print output.stdout
    IO.eprint output.stderr
    return output.exitCode

end TemplateCalc.Console

def main (args : List String) : IO UInt32 := do
  return UInt32.ofNat (← TemplateCalc.Console.runArguments args)
