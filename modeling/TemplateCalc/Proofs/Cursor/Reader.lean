import TemplateCalc.Token.Scan

/-!
Reading tokens by positions.

Here the text stays whole while a position moves through it. A character is looked up without moving;
a position is moved without looking whether it stays in the text. Where a part of the text is cut out,
both ends have to lie in it, otherwise the reader ends outside.
-/

set_option autoImplicit false

namespace TemplateCalc.Cursor

open Scan (Rules)

inductive Outcome where
  | token (token : Token) (position : Nat)
  | fault (fault : LexicalFault) (position : Nat)
  | outside

section Reader

variable (source : List Char)

/-! ### Looking and moving -/

def holds (test : Char → Bool) (position : Nat) : Bool :=
  source[position]?.any test

def slice? (start stop : Nat) : Option (List Char) :=
  if start ≤ stop ∧ stop ≤ source.length then some ((source.take stop).drop start) else none

variable {source} in
theorem lt_of_getElem? {position : Nat} {c : Char} (found : source[position]? = some c) :
    position < source.length :=
  (List.getElem?_eq_some_iff.mp found).1

variable {source} in
theorem lt_of_holds {test : Char → Bool} {position : Nat}
    (found : holds source test position = true) : position < source.length := by
  cases present : source[position]? with
  | some c => exact lt_of_getElem? present
  | none =>
      rw [holds, present] at found
      cases found

def skip (test : Char → Bool) (position : Nat) : Nat :=
  if _found : holds source test position then skip test (position + 1) else position
termination_by source.length - position
decreasing_by
  have inside := lt_of_holds _found
  omega

/-! ### Names -/

def name (position : Nat) : List Char × Nat :=
  match _found : source[position]? with
  | some c =>
    if Text.isNameChar c then
      let (cs, stop) := name (position + 1)
      (c :: cs, stop)
    else if c == ':' && holds source (· == ':') (position + 1) &&
        holds source Text.isNameStart (position + 2) then
      let (cs, stop) := name (position + 2)
      (':' :: ':' :: cs, stop)
    else ([], position)
  | none => ([], position)
termination_by source.length - position
decreasing_by
  all_goals
    have inside := lt_of_getElem? _found
    omega

def wordIsNumber? (radix position : Nat) : Option Bool :=
  (slice? source position source.length).map fun tail =>
    let word := tail.takeWhile Text.isNameChar
    if word.head? == some '_' || !word.all (Numeral.isDigit radix) then false
    else if holds source (· == ':') (position + word.length) &&
        holds source (· == ':') (position + word.length + 1) then false
    else !isKeyword (String.ofList (word.map Char.toLower))

/-! ### Numerals -/

def digits (radix : Nat) (separator : Option Char) (started : Bool) (position : Nat) :
    List Char × Nat :=
  match _found : source[position]? with
  | some c =>
    if Numeral.isDigit radix c then
      let (ds, stop) := digits radix separator true (position + 1)
      (c :: ds, stop)
    else if some c == separator && started && holds source (Numeral.isDigit radix) (position + 1) then
      digits radix separator started (position + 1)
    else ([], position)
  | none => ([], position)
termination_by source.length - position
decreasing_by
  all_goals
    have inside := lt_of_getElem? _found
    omega

/-- The fault of a numeral that began at `start`. Its text is cut out behind the name characters and
points that follow. -/
def invalidNumber (start position : Nat) : Outcome :=
  let stop := skip source (fun c => Text.isNameChar c || c == '.') position
  match slice? source start stop with
  | some text => .fault (.invalidNumber (String.ofList text)) stop
  | none => .outside

def integer (radix : Nat) (ds : List Char) (position : Nat) : Outcome :=
  match Numeral.word? radix ds with
  | some n => .token (.int n.toInt64) position
  | none => .fault (.tooBig (String.ofList ds)) position

def marked (start radix position : Nat) : Outcome :=
  let (ds, position) := digits source radix none false position
  if holds source Text.isNameChar position then invalidNumber source start position
  else
    match Numeral.word? radix ds with
    | some n => .token (.int n.toInt64) position
    | none =>
      if radix = 16 then .fault (.hexTooBig (String.ofList ds)) position
      else .fault (.tooBig (String.ofList ds)) position

def exponent? (position : Nat) : Option (Bool × Int × Nat) :=
  if holds source (fun c => c == 'e' || c == 'E') position then
    let negative := holds source (· == '-') (position + 1)
    let signed := holds source (fun c => c == '+' || c == '-') (position + 1)
    let (ds, stop) := digits source 10 none false (if signed then position + 2 else position + 1)
    some (!ds.isEmpty, Double.signedExponent negative ds, stop)
  else none

def behindPlaces (start : Nat) (whole places : List Char) (isReal : Bool) (position : Nat) :
    Outcome :=
  match exponent? source position with
  | some (false, _, stop) => invalidNumber source start stop
  | some (true, exponent, stop) =>
    if holds source Text.isNameChar stop then invalidNumber source start stop
    else .token (.real (Double.DecimalNumeral.toFloat ⟨whole, places, exponent⟩)) stop
  | none =>
    if holds source Text.isNameChar position then invalidNumber source start position
    else if isReal then
      .token (.real (Double.DecimalNumeral.toFloat ⟨whole, places, 0⟩)) position
    else integer 10 whole position

def startsFraction (position : Nat) : Bool :=
  holds source (· == '.') position &&
    !holds source (fun c => Text.isNameStart c && c != 'e' && c != 'E') (position + 1)

def decimal (rules : Rules) (start : Nat) : Outcome :=
  let (whole, position) := digits source 10 rules.separator false start
  if startsFraction source position then
    let (places, position) := digits source 10 none false (position + 1)
    behindPlaces source start whole places true position
  else behindPlaces source start whole [] false position

/-- A numeral in a radix other than ten. In front of a fraction or of a decimal digit the reader goes
back to the start. -/
def inRadix (rules : Rules) (start : Nat) : Outcome :=
  let (ds, position) :=
    digits source rules.radix (rules.separator.map fun _ => ' ') false start
  if holds source Char.isDigit position ||
      (holds source (· == '.') position && ds.all Char.isDigit) then
    match decimal source rules start with
    | .token (.real x) stop => .token (.real x) stop
    | .token _ stop => invalidNumber source start stop
    | result => result
  else if holds source Text.isNameChar position then invalidNumber source start position
  else integer rules.radix ds position

def unmarked (rules : Rules) (start : Nat) : Outcome :=
  if rules.radix = 10 then decimal source rules start else inRadix source rules start

def number (rules : Rules) (start : Nat) : Outcome :=
  if holds source (· == '0') start then
    match source[start + 1]?.bind (Scan.markRadix? rules.radix) with
    | some radix =>
      if holds source (Numeral.isDigit radix) (start + 2) then marked source start radix (start + 2)
      else if radix = 16 then invalidNumber source start (start + 2)
      else unmarked source rules start
    | none => unmarked source rules start
  else unmarked source rules start

/-! ### Character and string constants -/

inductive Escape where
  | character (c : Char)
  | code (n : Nat)
  | noDigits
  | unknown (c : Char)
  | finish

def hexDigits : (count : Nat) → (position : Nat) → List Char × Nat
  | 0, position => ([], position)
  | count + 1, position =>
    match source[position]? with
    | some c =>
      if Numeral.isDigit 16 c then
        let (ds, stop) := hexDigits count (position + 1)
        (c :: ds, stop)
      else ([], position)
    | none => ([], position)

def escape (position : Nat) : Escape × Nat :=
  match source[position]? with
  | some c =>
    if c = 'x' then
      let (ds, stop) := hexDigits source 2 (position + 1)
      (if ds.isEmpty then .noDigits else .code (Numeral.value 16 ds), stop)
    else
      match Scan.escaped? c with
      | some c => (.character c, position + 1)
      | none => (.unknown c, position + 1)
  | none => (.finish, position)

def Escape.text? : Escape → Option (List Char)
  | .character c => some [c]
  | .code n => some [Char.ofNat n]
  | .noDigits => some []
  | .unknown c => some [c]
  | .finish => none

theorem le_hexDigits (count position : Nat) : position ≤ (hexDigits source count position).2 := by
  fun_induction hexDigits source count position with
  | case2 count position c found digit ds stop read ih =>
      rw [read] at ih
      exact Nat.le_of_succ_le ih
  | case1 | case3 | case4 => exact Nat.le_refl _

theorem le_escape (position : Nat) : position ≤ (escape source position).2 := by
  fun_cases escape source position with
  | case1 ds stop read =>
      have bound := le_hexDigits source 2 (position + 1)
      rw [read] at bound
      exact Nat.le_of_succ_le bound
  | case2 | case3 => exact Nat.le_succ position
  | case4 => exact Nat.le_refl position

def closeCharacter (c : Char) (position : Nat) : Outcome :=
  if holds source (·.toNat == 0x27) position then
    .token (.int (Int64.ofNat c.toNat)) (position + 1)
  else .fault .characterNotClosed position

def character (position : Nat) : Outcome :=
  match source[position]? with
  | some c =>
    if c = '\\' then
      match escape source (position + 1) with
      | (.character c, stop) => closeCharacter source c stop
      | (.code n, stop) => closeCharacter source (Char.ofNat n) stop
      | (.noDigits, stop) => .fault (.badEscape 'x') stop
      | (.unknown c, stop) => .fault (.badEscape c) stop
      | (.finish, stop) => .fault .characterNotClosed stop
    else closeCharacter source c (position + 1)
  | none => .fault .characterNotClosed position

def stringTail (position : Nat) : Option (List Char) × Nat :=
  match _found : source[position]? with
  | some c =>
    if c = '"' then (some [], position + 1)
    else if c = '\\' then
      match (escape source (position + 1)).1.text? with
      | some front =>
        let (chars, stop) := stringTail (escape source (position + 1)).2
        (chars.map (front ++ ·), stop)
      | none => (none, (escape source (position + 1)).2)
    else
      let (chars, stop) := stringTail (position + 1)
      (chars.map (c :: ·), stop)
  | none => (none, position)
termination_by source.length - position
decreasing_by
  all_goals
    have inside := lt_of_getElem? _found
    have bound := le_escape source (position + 1)
    omega

def string (position : Nat) : Outcome :=
  match stringTail source position with
  | (some chars, stop) => .token (.str (String.ofList (chars.takeWhile (· != '\x00')))) stop
  | (none, stop) => .fault .stringNotClosed stop

/-! ### Marks -/

def ifNext (c : Char) (behind other : Nat → Outcome) (position : Nat) : Outcome :=
  if holds source (· == c) position then behind (position + 1) else other position

def alone (token : Token) (position : Nat) : Outcome :=
  .token token position

def notBefore (first : Char) (forbidden : List Char) (op : Arith) (position : Nat) : Outcome :=
  match source[position]? with
  | some c =>
    if forbidden.contains c then .fault (.unexpectedPair first c) position
    else .token (.operator (.arith op)) position
  | none => .token (.operator (.arith op)) position

def orEqual (plain withEqual : Token) : Nat → Outcome :=
  ifNext source '=' (alone withEqual) (alone plain)

def arithmetic (op : Arith) : Nat → Outcome :=
  orEqual source (.operator (.arith op)) (.assign (some op))

def quotedName (position : Nat) : Outcome :=
  if holds source Text.isNameChar position then
    .token (.quoted (String.ofList (name source position).1)) (name source position).2
  else .fault (.unexpected '@') position

def mark (c : Char) : Nat → Outcome :=
  match c with
  | '"' => string source
  | '@' => quotedName source
  | '+' => ifNext source '+' (alone (.step .increment)) (arithmetic source .add)
  | '-' => ifNext source '-' (alone (.step .decrement)) (arithmetic source .sub)
  | '*' => arithmetic source .mul
  | '/' => arithmetic source .div
  | '%' => arithmetic source .rem
  | '&' =>
    ifNext source '&' (alone .both)
      (ifNext source '=' (alone (.assign (some .bitAnd))) (notBefore source '&' ['|', '^'] .bitAnd))
  | '|' =>
    ifNext source '|' (alone .either)
      (ifNext source '=' (alone (.assign (some .bitOr))) (notBefore source '|' ['&', '^'] .bitOr))
  | '^' =>
    ifNext source '=' (alone (.assign (some .bitXor)))
      (notBefore source '^' ['&', '|', '^'] .bitXor)
  | '<' =>
    ifNext source '<' (arithmetic source .shiftLeft)
      (orEqual source (.operator (.relation .less)) (.operator (.relation .lessEq)))
  | '>' =>
    ifNext source '>' (arithmetic source .shiftRight)
      (orEqual source (.operator (.relation .greater)) (.operator (.relation .greaterEq)))
  | '=' => orEqual source (.assign none) (.operator (.relation .equal))
  | '!' => orEqual source .bang (.operator (.relation .notEqual))
  | '~' => alone .tilde
  | '?' => alone .question
  | ':' => alone .colon
  | ',' => alone .comma
  | '.' => alone .dot
  | '(' => alone .openParen
  | ')' => alone .closeParen
  | '[' => alone .openBracket
  | ']' => alone .closeBracket
  | c => if c.toNat = 0x27 then character source else .fault (.unexpected c)

/-! ### Tokens -/

def tokenFrom (rules : Rules) (afterOperand : Bool) (c : Char) (position : Nat) : Outcome :=
  if c.isDigit || (c == '.' && !afterOperand && holds source Char.isDigit (position + 1)) then
    number source rules position
  else if Text.isNameStart c then
    let word : Outcome :=
      .token (.word (String.ofList (name source position).1)) (name source position).2
    if rules.radix > 10 then
      match wordIsNumber? source rules.radix position with
      | some true => number source rules position
      | some false => word
      | none => .outside
    else word
  else mark source c (position + 1)

structure State where
  position : Nat
  afterOperand : Bool

def next (rules : Rules) (state : State) : Outcome :=
  let position := skip source Text.isBlank state.position
  match source[position]? with
  | some c => tokenFrom source rules state.afterOperand c position
  | none => .token .finish position

/-- The state behind a call. A fault leaves the position where it came up. -/
def State.behind (state : State) : Outcome → State
  | .token token position => ⟨position, token.endsOperand⟩
  | .fault _ position => ⟨position, state.afterOperand⟩
  | .outside => state

def step (rules : Rules) (state : State) : State :=
  state.behind (next source rules state)

/-- The state behind some calls; the rules may change between them. -/
def stateBehind (calls : List Rules) (state : State) : State :=
  calls.foldl (fun state rules => step source rules state) state

inductive Tokens (rules : Rules) : State → List Token → Option LexicalFault → Prop where
  | finish {state : State} {position : Nat}
      (read : next source rules state = .token .finish position) : Tokens rules state [] none
  | fault {state : State} {fault : LexicalFault} {position : Nat}
      (read : next source rules state = .fault fault position) : Tokens rules state [] (some fault)
  | token {state : State} {token : Token} {position : Nat} {tokens : List Token}
      {fault : Option LexicalFault} (read : next source rules state = .token token position)
      (more : token ≠ .finish) (others : Tokens rules ⟨position, token.endsOperand⟩ tokens fault) :
      Tokens rules state (token :: tokens) fault

end Reader

end TemplateCalc.Cursor
