import TemplateCalc.Calendar.Read
import TemplateCalc.Ebcdic
import TemplateCalc.Function.Bits
import TemplateCalc.Function.Numeric
import TemplateCalc.Function.Strings

/-!
The results of functions that depend on their arguments and the clock only.
-/

set_option autoImplicit false

namespace TemplateCalc.Function

def intArg (args : List Value) (position : Nat) (default : Int64) : Int64 :=
  (args[position]?.bind Value.int?).getD default

def realArg (args : List Value) (position : Nat) : Float :=
  (args[position]?.bind Value.real?).getD 0.0

def textArg (args : List Value) (position : Nat) (default : String) : String :=
  (args[position]?.bind Value.str?).getD default

/-- The result of a call whose arguments have the right number and types; `none` if the function is
hosted. `now` is the day count of the present. -/
def result? (now : Float) (f : Function) (args : List Value) : Option (Except EvalError Value) :=
  let v := args.headD .none
  let n := intArg args 0 0
  let x := realArg args 0
  let s := textArg args 0 ""
  match f with
  | .abs => some (.ok (Numeric.abs v))
  | .min => some (.ok (Numeric.least args))
  | .max => some (.ok (Numeric.greatest args))
  | .fact => some (Numeric.fact n)
  | .pow => some (Numeric.pow v (args.getD 1 .none))
  | .sqrt => some (Numeric.sqrt v)
  | .sin => some (.ok (.real x.sin))
  | .cos => some (.ok (.real x.cos))
  | .tan => some (.ok (.real x.tan))
  | .asin => some (.ok (.real x.asin))
  | .acos => some (.ok (.real x.acos))
  | .atan => some (.ok (.real x.atan))
  | .exp => some (.ok (.real x.exp))
  | .log => some (.ok (.real x.log))
  | .int => some (.ok (.int (Numeric.truncate v)))
  | .flip => some (.ok (.int (Bits.flip n (intArg args 1 0))))
  | .reverse => some (.ok (.int (Bits.reverse n (intArg args 1 64))))
  | .rol => some ((Bits.move .rotateLeft n (intArg args 1 1) (intArg args 2 64)).map .int)
  | .ror => some ((Bits.move .rotateRight n (intArg args 1 1) (intArg args 2 64)).map .int)
  | .asr => some ((Bits.move .shiftRight n (intArg args 1 1) (intArg args 2 64)).map .int)
  | .date => some (.ok (.date ((Calendar.readDate? s).getD Calendar.invalidCount)))
  | .time => some (.ok (.date ((Calendar.readTime? s).getD Calendar.invalidCount)))
  | .now => some (.ok (.date now))
  | .year => some (.ok (.real (x * 365.25).round))
  | .month => some (.ok (.real (x * 365.25 / 12.0).round))
  | .day => some (.ok (.real x.round))
  | .hour => some (.ok (.real (x / 24.0)))
  | .minute => some (.ok (.real (x / 1440.0)))
  | .second => some (.ok (.real (x / 86400.0)))
  | .atoi => some (.ok (.int (Strings.leadingInteger s 10)))
  | .atof => some (.ok (.real (Strings.leadingReal s)))
  | .strlen => some (.ok (.int (Int64.ofNat s.toList.length)))
  | .left => some (.ok (.str (Strings.left s (Strings.count (intArg args 1 0)))))
  | .right => some (.ok (.str (Strings.right s (Strings.count (intArg args 1 0)))))
  | .mid =>
    let length := args[2]?.map fun v => Strings.count (v.int?.getD 0)
    some (.ok (.str (Strings.mid s (Strings.count (intArg args 1 0)) length)))
  | .ltrim => some (.ok (.str (Text.trimStart s)))
  | .rtrim => some (.ok (.str (Text.trimEnd s)))
  | .strchr => some (.ok (.int (Strings.position (Strings.indexOfCode? s (intArg args 1 0)))))
  | .strstr =>
    some (.ok (.int (Strings.position (Strings.indexOf? (textArg args 1 "").toList s.toList))))
  | .strcmp => some (.ok (.int (Strings.sign (compare s (textArg args 1 "")))))
  | .stricmp =>
    some (.ok (.int
      (Strings.sign (compare (Text.lowercase s) (Text.lowercase (textArg args 1 ""))))))
  | .asc2ebc => some (.ok (.str (Ebcdic.encode s)))
  | .ebc2asc => some (.ok (.str (Ebcdic.decode s)))
  | .rand | .get | .getInt | .getString | .getBool => none

end TemplateCalc.Function
