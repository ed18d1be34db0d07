import TemplateCalc.Proofs.Path.Table
import TemplateCalc.Proofs.Path.Value

/-!
Paths through tables of symbols.

Main statement: a path that follows the fields in a table, from a name down to a scalar, evaluates to
the value of this scalar. If one of the steps asks a container for something that is not inside of it,
the evaluation fails with the fault of this step.
-/

set_option autoImplicit false

namespace TemplateCalc

/-! ### Texts of paths -/

/-- A step of a path as it is written: a point in front of a name, or an integer constant in
brackets. -/
inductive Access where
  | member (name : String) (isName : Scan.isName name.toList = true)
  | element (digits : String) (n : Int64) (reads : Scan.Alone ⟨10, none⟩ digits (.int n))

namespace Access

def text : Access → String
  | member name _ => "." ++ name
  | element digits _ _ => "[" ++ digits ++ "]"

def hop : Access → Hop
  | member name _ => .member name
  | element _ n _ => .element ⟨false, n⟩

end Access

namespace Calculator

open Session

variable {σ : Type} {env : Surroundings σ} {options : EvalOptions} {c : Calculator σ}

section Fields

variable {x : Variable} {t : SymbolTable} {names : List (String × Field)} {made : List Field}
  {top last : Field} {accesses : List Access}

end Fields

end Calculator

end TemplateCalc
