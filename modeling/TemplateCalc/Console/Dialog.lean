import TemplateCalc.Console.Files
import TemplateCalc.Dialog
import TemplateCalc.Function.Strings

/-!
Questions on the console: the prompt is shown and the next line of input is the answer. The end of the
input, and a line that is no text, cancel.
-/

set_option autoImplicit false

namespace TemplateCalc.Console

def withoutEnd (s : String) : String :=
  String.ofList (s.toList.reverse.dropWhile fun c => c == '\r' || c == '\n').reverse

/-- Asks until an answer is found in a line, starting with the given lines. What is shown is the
prompt and a blank, and a remark behind an answer that will not do. -/
def askUntil {α : Type} (prompt remark : String) (accept : String → Option α) :
    List Line → Reply α (List Line)
  | [] => ⟨none, [], prompt ++ " "⟩
  | .garbled :: rest => ⟨none, rest, prompt ++ " "⟩
  | .text line :: rest =>
    match accept (withoutEnd line) with
    | some a => ⟨some a, rest, prompt ++ " "⟩
    | none =>
      let reply := askUntil prompt remark accept rest
      { reply with shown := prompt ++ " " ++ remark ++ reply.shown }

/-- A number in a range; a blank line stands for the initial value. -/
def acceptInteger (initial least greatest : Int64) (line : String) : Option Int64 :=
  if (Text.trim line).isEmpty then some initial
  else
    let n := Strings.leadingInteger line 10
    if least ≤ n ∧ n ≤ greatest then some n else none

def acceptText (initial line : String) : Option String :=
  some (if line.isEmpty then initial else line)

def acceptChoice (yes no line : String) : Option Bool :=
  let word := Text.trim line
  if Text.sameIgnoringCase word yes then some true
  else if Text.sameIgnoringCase word no then some false
  else none

/-- The dialog on the console. Its state is the input that is left. -/
def dialog : Dialog (List Line) where
  askInteger prompt initial least greatest :=
    let limit (n : Int64) : String := Numeral.signed n.toInt
    askUntil (prompt ++ " [" ++ limit initial ++ "]")
      ("Enter a number from " ++ limit least ++ " to " ++ limit greatest ++ "\n")
      (acceptInteger initial least greatest)
  askText prompt initial := askUntil (prompt ++ " [" ++ initial ++ "]") "" (acceptText initial)
  askChoice prompt yes no :=
    askUntil (prompt ++ " (" ++ yes ++ "/" ++ no ++ ")") "" (acceptChoice yes no)

end TemplateCalc.Console
