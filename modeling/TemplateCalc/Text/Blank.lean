/-!
Blanks: the white-space characters, and trimming of texts.

Every part of the library that skips or trims blanks uses `isBlank`.
-/

set_option autoImplicit false

namespace TemplateCalc.Text

def isBlank (c : Char) : Bool :=
  let n := c.toNat
  (9 ≤ n && n ≤ 13) || n == 0x20 || n == 0x85 || n == 0xA0 || n == 0x1680 ||
    (0x2000 ≤ n && n ≤ 0x200A) || n == 0x2028 || n == 0x2029 || n == 0x202F || n == 0x205F ||
    n == 0x3000

def skipBlanks (cs : List Char) : List Char :=
  cs.dropWhile isBlank

def dropTrailingBlanks (cs : List Char) : List Char :=
  (cs.reverse.dropWhile isBlank).reverse

def trimStart (s : String) : String :=
  String.ofList (skipBlanks s.toList)

def trimEnd (s : String) : String :=
  String.ofList (dropTrailingBlanks s.toList)

def trim (s : String) : String :=
  String.ofList (dropTrailingBlanks (skipBlanks s.toList))

end TemplateCalc.Text
