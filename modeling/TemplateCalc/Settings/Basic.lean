/-!
Settings: how expressions are read and evaluated, and how values are shown when nothing else is
asked for.
-/

set_option autoImplicit false

namespace TemplateCalc

structure EvalOptions where
  /-- Radix of integers without a mark. -/
  radix : Nat := 10
  /-- Whether digits can be divided by separators. -/
  digitSeparators : Bool := false
  /-- The separator in decimal integers; a blank divides all others. -/
  separator : Char := ','
  /-- Whether variables change and questions are asked. -/
  sideEffects : Bool := true
  /-- Whether all missing operands are reported alike. -/
  legacyMessages : Bool := false
  /-- The deepest nesting. -/
  maxDepth : Nat := 64
  deriving DecidableEq, Repr

structure FormatOptions where
  decimalPoint : Char := '.'
  /-- The mark between groups of decimal digits. -/
  groupChar : Char := ','
  /-- The number of digits in a group. -/
  groupSize : Nat := 3
  /-- Format of integers, if not empty. -/
  intFormat : String := ""
  /-- Format of unsigned integers, if not empty; otherwise that of integers. -/
  unsignedFormat : String := ""
  realFormat : String := ""
  stringFormat : String := "%s"
  dateFormat : String := "%Y-%m-%d %H:%M:%S"
  deriving DecidableEq, Repr

structure Settings where
  format : FormatOptions := {}
  eval : EvalOptions := {}
  deriving DecidableEq, Repr

end TemplateCalc
