import TemplateCalc.Text.CaseTable
import TemplateCalc.Text.Letter

/-!
The small form of a text in all scripts.

A capital sigma at the end of a word becomes the final sigma, and the dotted capital I becomes a
small i with a combining dot; every other capital has a small form of one character.
-/

set_option autoImplicit false

namespace TemplateCalc.Text

def isCased (c : Char) : Bool :=
  if c.toNat < 0x80 then c.isAlpha else inRanges casedRanges c.toNat

def isCaseIgnorable (c : Char) : Bool :=
  if c.toNat < 0x80 then c.toNat == 0x27 || c == '.' || c == ':' || c == '^' || c.toNat == 0x60
  else inRanges caseIgnorableRanges c.toNat

def CapitalRun.lower? (run : CapitalRun) (n : Nat) : Option Char :=
  if run.first ≤ n && n ≤ run.last && (n - run.first) % run.stride == 0 then
    some (Char.ofNat ((n : Int) + run.offset).toNat)
  else
    none

def lowerChar (c : Char) : List Char :=
  if c.toNat < 0x80 then [c.toLower]
  else if c.toNat == 0x130 then ['i', Char.ofNat 0x307]
  else [(capitalRuns.findSome? fun run => run.lower? c.toNat).getD c]

def startsCased : List Char → Bool
  | [] => false
  | c :: cs => if isCaseIgnorable c then startsCased cs else isCased c

def capitalSigma : Char :=
  Char.ofNat 0x3A3

/-- The small form of the remaining characters; `before` holds those already passed, last first. -/
def lowerFrom (before : List Char) : List Char → List Char
  | [] => []
  | c :: cs =>
    let small :=
      if c == capitalSigma then
        if startsCased before && !startsCased cs then [Char.ofNat 0x3C2] else [Char.ofNat 0x3C3]
      else
        lowerChar c
    small ++ lowerFrom (c :: before) cs

def lowercase (s : String) : String :=
  String.ofList (lowerFrom [] s.toList)

def sameIgnoringCase (s t : String) : Bool :=
  s.toList.map Char.toLower == t.toList.map Char.toLower

end TemplateCalc.Text
