import TemplateCalc.Calendar.DayCount
import TemplateCalc.Calendar.Pattern
import TemplateCalc.Double.Text
import TemplateCalc.Text.Quoted
import TemplateCalc.Value.Basic

/-!
Texts of values: the plain one, and the one that diagnostics show.
-/

set_option autoImplicit false

namespace TemplateCalc

def invalidDateText : String := "##Invalid date##"

namespace Value

def text : Value → String
  | none => ""
  | bool b => if b then "TRUE" else "FALSE"
  | int n => Numeral.signed n.toInt
  | real x => Double.plain x
  | date d => (Calendar.Moment.ofCount? d).elim invalidDateText Calendar.Moment.text
  | str s => s
  | blob | struct | array => ""

def detailed : Value → String
  | none => "None"
  | bool b => "Bool(" ++ (if b then "true" else "false") ++ ")"
  | int n => "Int(" ++ Numeral.signed n.toInt ++ ")"
  | real x => "Real(" ++ Double.detailed x ++ ")"
  | date d => "Date(" ++ Double.detailed d ++ ")"
  | str s => "Str(" ++ Text.quoted s ++ ")"
  | blob => "Blob"
  | struct => "Struct"
  | array => "Array"

end Value

end TemplateCalc
