import TemplateCalc.Proofs.Depth
import TemplateCalc.Proofs.Path.Inquiry
import TemplateCalc.Proofs.Variables

/-!
Elements of array variables.

An element is a variable of its own, with the index in its name. Main statement: whatever row of
assignments, compound assignments and steps has succeeded, each element holds what those with its own
index made of it, an element that none of them has names nothing, and all other variables are as they
were.
-/

set_option autoImplicit false

namespace TemplateCalc

/-! ### Names of elements -/

namespace Numeral

theorem decimal_injective {m n : Nat} (same : decimal m = decimal n) : m = n := by
  have digits : Nat.toDigits 10 m = Nat.toDigits 10 n := String.ofList_injective same
  calc
    m = value 10 (Nat.toDigits 10 m) := (value_toDigits (by decide) (by decide) m).symm
    _ = value 10 (Nat.toDigits 10 n) := by rw [digits]
    _ = n := value_toDigits (by decide) (by decide) n

theorem minus_decimal_ne (m n : Nat) : "-" ++ decimal m ≠ decimal n := by
  intro same
  have isFirst : '-' ∈ (decimal n).toList := by
    rw [← same, String.toList_append]
    exact List.mem_append_left _ (by decide)
  rw [decimal, String.toList_ofList] at isFirst
  exact absurd (isDigit_of_mem_toDigits (by decide) (by decide) n '-' isFirst) (by decide)

theorem signed_injective {m n : Int} (same : signed m = signed n) : m = n := by
  unfold signed at same
  split at same <;> split at same
  · have sizes := decimal_injective (String.append_right_inj _ |>.mp same)
    omega
  · exact absurd same (minus_decimal_ne _ _)
  · exact absurd same.symm (minus_decimal_ne _ _)
  · have sizes := decimal_injective same
    omega

end Numeral

namespace Scan

/-- A name has no characters but those of names, and colons. -/
theorem mem_name {cs : List Char} {c : Char} (member : c ∈ (name cs).1) :
    Text.isNameChar c = true ∨ c = ':' := by
  fun_induction name cs with
  | case1 => cases member
  | case2 first rest starts chars behind found ih =>
      rw [found] at ih
      rcases member with _ | ⟨_, _ | ⟨_, member⟩⟩
      · exact .inr rfl
      · exact .inr rfl
      · exact ih member
  | case3 => cases member
  | case4 first rest _ inside chars behind found ih =>
      rw [found] at ih
      rcases member with _ | ⟨_, member⟩
      · exact .inl inside
      · exact ih member
  | case5 => cases member

end Scan

theorem Variable.plain (x : Variable) : '[' ∉ x.name.toList := by
  intro member
  have isWhole : (Scan.name x.name.toList).1 = x.name.toList :=
    congrArg Prod.fst (Scan.name_whole x.isName)
  rw [← isWhole] at member
  rcases Scan.mem_name member with inside | isColon
  · exact absurd inside (by decide)
  · exact absurd isColon (by decide)

/-! ### Updates -/

inductive Change where
  | set (v : Literal)
  | add (v : Literal)
  | step

def Change.tokens : Change → List Token
  | set v => .assign none :: v.tokens
  | add v => .assign (some .add) :: v.tokens
  | step => [.step .increment]

/-- The integer in the element behind a change, given the one in front of it. Where there is none, only
an assignment succeeds. -/
def Change.apply : Change → Option Int64 → Option Int64
  | set v, _ => some v.value
  | add v, old => old.map (· + v.value)
  | step, old => old.map (· + 1)

structure Update where
  index : Literal
  change : Change

namespace Update

def tokens (x : Variable) (u : Update) : List Token :=
  .word x.name :: (pathTokens [.element u.index] ++ u.change.tokens)

/-- What the updates with the given index, one after the other, make of the integer in the element. -/
def replay (updates : List Update) (i : Int64) (old : Option Int64) : Option Int64 :=
  (updates.filter (·.index.value = i)).foldl (fun old u => u.change.apply old) old

section Replay

variable {u : Update} {updates : List Update} {i : Int64} {old : Option Int64}

theorem replay_cons_of_eq (same : u.index.value = i) :
    replay (u :: updates) i old = replay updates i (u.change.apply old) := by
  rw [replay, List.filter_cons_of_pos (by simpa using same), List.foldl_cons]
  rfl

theorem replay_cons_of_ne (other : u.index.value ≠ i) :
    replay (u :: updates) i old = replay updates i old := by
  rw [replay, List.filter_cons_of_neg (by simpa using other)]
  rfl

theorem replay_of_forall_ne (others : ∀ u ∈ updates, u.index.value ≠ i) :
    replay updates i old = old := by
  have nothing : updates.filter (·.index.value = i) = [] :=
    List.filter_eq_nil_iff.mpr fun u member isIndex => others u member (of_decide_eq_true isIndex)
  rw [replay, nothing, List.foldl_nil]

/-- No change takes the integer out of an element. -/
theorem isSome_replay (isThere : old.isSome = true) : (replay updates i old).isSome = true := by
  induction updates generalizing old with
  | nil => exact isThere
  | cons u updates ih =>
      by_cases isIndex : u.index.value = i
      · rw [replay_cons_of_eq isIndex]
        apply ih
        cases u.change with
        | set v => rfl
        | add v | step => rwa [Change.apply, Option.isSome_map]
      · rw [replay_cons_of_ne isIndex]
        exact ih isThere

end Replay

end Update

/-! ### Texts -/

def Literal.text (l : Literal) : String :=
  if l.negative then "-" ++ (Token.int l.constant).text else (Token.int l.constant).text

def Change.text : Change → String
  | set v => " = " ++ v.text
  | add v => " += " ++ v.text
  | step => "++"

def Update.text (x : Variable) (u : Update) : String :=
  x.name ++ "[" ++ u.index.text ++ "]" ++ u.change.text

def Change.literals : Change → List Literal
  | set v | add v => [v]
  | step => []

section Texts

open Scan

variable {rules : Rules} (ten : rules.radix = 10) (plain : rules.separator = none)
include ten

omit ten in
theorem isDigit_of_mem_text {n : Int64} (positive : 0 ≤ n) {c : Char}
    (member : c ∈ (Token.int n).text.toList) : c.isDigit = true := by
  have sign : ¬n.toInt < 0 := Int.not_lt.mpr (Int64.le_iff_toInt_le.mp positive)
  rw [Token.text, Numeral.signed, if_neg sign, Numeral.decimal, String.toList_ofList] at member
  exact Nat.isDigit_of_mem_toDigits (by decide) (by decide) member

/-- A minus sign in front of digits is an operator. -/
theorem Literal.reads {l : Literal} (positive : 0 ≤ l.constant) (afterOperand : Bool) :
    Reads rules afterOperand l.text.toList l.tokens none := by
  have constant := alone_int ten positive
  rw [Literal.text, Literal.tokens]
  cases l.negative with
  | false => exact constant afterOperand
  | true =>
      have behind := constant false
      have isText : ("-" ++ (Token.int l.constant).text).toList =
          '-' :: (Token.int l.constant).text.toList := by
        simp
      rw [if_pos rfl, if_pos rfl, isText]
      refine .token rfl ?_ behind
      cases isDigits : (Token.int l.constant).text.toList with
      | nil => rfl
      | cons c cs =>
          have digit := isDigit_of_mem_text positive (isDigits ▸ List.mem_cons_self)
          have noMinus : c ≠ '-' := by
            rintro rfl
            exact absurd digit (by decide)
          have noEqual : c ≠ '=' := by
            rintro rfl
            exact absurd digit (by decide)
          have isOperator : mark '-' (c :: cs) = .ok (.operator (.arith .sub), c :: cs) := by
            simp only [mark, arithmetic, orEqual, ifNext, if_neg noMinus, if_neg noEqual]
            rfl
          exact isOperator

include plain

theorem Change.reads {change : Change} (positive : ∀ v ∈ change.literals, 0 ≤ v.constant) :
    Reads rules true change.text.toList change.tokens none := by
  have assigned (op : Option Arith) {v : Literal} (positive : 0 ≤ v.constant) :
      Reads rules true ((Token.assign op).text.toList ++ ' ' :: v.text.toList)
        (.assign op :: v.tokens) none :=
    (alone_mark rfl true).append (by decide) plain (v.reads ten positive false).space
  cases change with
  | set v =>
      have isText : (Change.set v).text.toList = ' ' :: ("=".toList ++ ' ' :: v.text.toList) := by
        simp [Change.text]
      rw [isText]
      exact (assigned none (positive v List.mem_cons_self)).space
  | add v =>
      have isText : (Change.add v).text.toList = ' ' :: ("+=".toList ++ ' ' :: v.text.toList) := by
        simp [Change.text]
      rw [isText]
      exact (assigned (some .add) (positive v List.mem_cons_self)).space
  | step => exact @alone_mark rules (.step .increment) rfl true

/-- The text of an update has the tokens of the update. -/
theorem Update.scan_text (x : Variable) (u : Update) (positive : 0 ≤ u.index.constant)
    (positive' : ∀ v ∈ u.change.literals, 0 ≤ v.constant) :
    scan rules (u.text x) = ⟨u.tokens x, none⟩ := by
  apply scan_of_reads
  have isText : (u.text x).toList =
      x.name.toList ++ '[' :: (u.index.text.toList ++ ']' :: u.change.text.toList) := by
    simp [Update.text]
  have isRow : u.tokens x =
      .word x.name :: .openBracket :: (u.index.tokens ++ .closeBracket :: u.change.tokens) := by
    simp [Update.tokens, pathTokens, Hop.tokens, Hop.mark, Hop.behind]
  have closed : Reads rules (behindOperand false u.index.tokens) (']' :: u.change.text.toList)
      (.closeBracket :: u.change.tokens) none :=
    .cons (by decide) (fun _ _ => rfl) (Change.reads ten plain positive')
  have inside := (u.index.reads ten positive false).append (by decide) plain closed
  have ends : EndsName ('[' :: (u.index.text.toList ++ ']' :: u.change.text.toList)) := by
    rintro _ _ ⟨⟩
    decide
  have small : ¬10 < rules.radix := by omega
  have named := Reads.word x.isName ends (absurd · small)
    (.cons (by decide) (fun _ _ => rfl) inside) false
  rw [String.ofList_toList] at named
  rw [isText, isRow]
  exact named

end Texts

/-! ### Names -/

namespace Session

/-- The name and the index can be read off the name of an element. -/
theorem elementName_inj {a b : String} (plain : '[' ∉ a.toList) (plain' : '[' ∉ b.toList)
    {i j : Int64} (same : elementName a i = elementName b j) : a = b ∧ i = j := by
  have cut {name : String} (plain : '[' ∉ name.toList) (i : Int64) :
      (elementName name i).toList.takeWhile (· != '[') = name.toList := by
    have isRow : (elementName name i).toList =
        name.toList ++ '[' :: ((Numeral.signed i.toInt).toList ++ [']']) := by
      simp [elementName]
    have noBracket : ∀ c ∈ name.toList, (c != '[') = true := by
      intro c member
      exact bne_iff_ne.mpr fun isBracket => plain (isBracket ▸ member)
    rw [isRow, (Text.cut_of_all noBracket (by rintro c ⟨⟩; rfl)).1]
  have names : a = b := by
    rw [← String.toList_inj, ← cut plain i, same, cut plain' j]
  subst names
  have numbers := String.append_left_inj _ |>.mp same
  have numbers := Numeral.signed_injective (String.append_right_inj _ |>.mp numbers)
  exact ⟨rfl, Int64.toInt_inj.mp numbers⟩

/-! ### An element in view -/

section Element

variable {σ : Type} {env : Surroundings σ} {room : Nat} {effects : Bool} {x : Variable}
  {index : Literal} {more : List Token} {s : Session σ} {value : Value}

/-- The tokens in view are an element of a name that neither the host nor a variable has. -/
structure Indexed (env : Surroundings σ) (room : Nat) (x : Variable) (index : Literal)
    (more : List Token) (s : Session σ) : Prop where
  met : At (.word x.name :: (pathTokens [.element index] ++ more)) s
  unresolved : env.host.resolve x.name none 0 = none
  unbound : s.vars.get? x.name = none
  enough : index.tokens.length ≤ room

/-- The element is found under its own name, or nothing is, which is let through in front of a
change. -/
theorem Indexed.primary (indexed : Indexed env room x index more s)
    (noIndex : more.headD .finish ≠ .openBracket)
    (through : s.vars.get? (elementName x.name index.value) = none →
      letsThrough false (more.headD .finish) = true) (effects : Bool) :
    ∃ t, Session.primary env (nest env room) false effects s =
        (.ok { value := (s.vars.get? (elementName x.name index.value)).getD .none
               target := some (elementName x.name index.value) }, t) ∧
      At more t ∧ t.vars = s.vars := by
  obtain ⟨t, isNamed, behind, sameVars⟩ :=
    @primary_variable _ env (nest env room) false effects _ _ _ indexed.met
  obtain ⟨journal, asked⟩ := run_lookup indexed.unresolved t
  have met : At (pathTokens [.element index] ++ more) { t with journal := journal } :=
    ⟨behind.token, behind.rest, behind.readable⟩
  have enough : ∀ hop ∈ [Hop.element index], hop.room ≤ room := by
    rw [List.forall_mem_singleton]
    exact indexed.enough
  obtain ⟨u, ran, after, sameVars'⟩ := run_indexedName env effects x.name enough noIndex met
  have unbound : t.vars.get? x.name = none := by
    rw [sameVars]
    exact indexed.unbound
  have vars : u.vars = s.vars := sameVars'.trans sameVars
  refine ⟨u, ?_, after, vars⟩
  have viewed : u.token = more.headD .finish := after.token
  rw [← vars, ← viewed] at through
  rw [isNamed, named, run_bind_ok (run_varValue? _ t), unbound]
  simp only
  rw [run_bind_ok asked]
  simp only
  rw [run_bind_ok ran, run_bind_ok (run_varValue? _ u), variableName, ← vars]
  cases bound : u.vars.get? (elementName x.name index.value) with
  | some value => rfl
  | none =>
      simp only
      rw [run_bind_ok (run_peek u), ← letsThrough, through bound]
      rfl

theorem Indexed.deeper (indexed : Indexed env room x index more s) :
    Indexed env room x index more { s with depth := s.depth + 1 } where
  met := ⟨indexed.met.token, indexed.met.rest, indexed.met.readable⟩
  unresolved := indexed.unresolved
  unbound := indexed.unbound
  enough := indexed.enough

theorem Indexed.starts (indexed : Indexed env room x index more s) :
    startsPrimary s.token = true := by
  rw [indexed.met.token]
  rfl

theorem Indexed.whole_value (indexed : Indexed env room x index [] s) (effects : Bool) :
    (whole env (room + 1) effects s).1 =
      (s.vars.get? (elementName x.name index.value)).elim
        (.error (.symbol (.unknown (elementName x.name index.value)))) .ok := by
  cases held : s.vars.get? (elementName x.name index.value) with
  | some value =>
      obtain ⟨t, ran, atEnd, _⟩ := indexed.deeper.primary Token.noConfusion
        (fun unbound => by rw [held] at unbound; cases unbound) effects
      rw [held] at ran
      have operand : postfixed env (nest env room) false effects { s with depth := s.depth + 1 } =
          (.ok { value, target := some (elementName x.name index.value) }, t) := by
        rw [postfixed, run_bind_ok ran, run_bind_ok (run_get t)]
        exact postfixTail_stop (by rw [atEnd.token]; rfl) _ _
      exact whole_of_postfixed indexed.starts operand atEnd.token
  | none =>
      have unknown : Unknown env room x [.element index] [] s :=
        ⟨indexed.met, indexed.unresolved, indexed.unbound, held, by
          rw [List.forall_mem_singleton]
          exact indexed.enough⟩
      exact unknown.whole_error effects

theorem Indexed.whole_assigned {op : Option Arith} {v : Literal}
    (indexed : Indexed env room x index (.assign op :: v.tokens) s) (fits : v.tokens.length ≤ room)
    (effects : Bool) :
    let name := elementName x.name index.value
    let meant := (do
      let value ← Meaning.ofExcept
        (assignedValue op ((s.vars.get? name).getD .none) (.int v.value))
      Meaning.keep effects name value
      return value : Meaning Value) s.vars
    (whole env (room + 1) effects s).1 = meant.1 ∧
      (whole env (room + 1) effects s).2.vars = meant.2 := by
  obtain ⟨t, ran, behind, sameVars⟩ :=
    indexed.deeper.primary Token.noConfusion (fun _ => rfl) effects
  have left := nest_of_primary indexed.starts ran (by rw [behind.token]; rfl)
  have right : Evaluates env assignLevel v.tokens fun _ => pure (.int v.value) :=
    (evaluates_literal v).of_le (Nat.le_refl 1) (by decide) (by decide)
  rw [← List.append_nil v.tokens] at behind
  have gives := gives_assign left ⟨behind.token, behind.rest, behind.readable⟩ right fits
    (ends_nil assignLevel)
  have vars : ({ t with depth := t.depth - 1 } : Session σ).vars = s.vars := sameVars
  rw [vars] at gives
  exact gives.alone.whole

theorem Indexed.whole_stepped (indexed : Indexed env room x index [.step .increment] s)
    (succeeds : (whole env (room + 1) effects s).1 = .ok value) :
    let name := elementName x.name index.value
    ∃ n, s.vars.get? name = some (.int n) ∧
      (whole env (room + 1) effects s).2.vars =
        if effects then s.vars.set name (.int (n + 1)) else s.vars := by
  intro name
  obtain ⟨t, ran, behind, sameVars⟩ :=
    indexed.deeper.primary Token.noConfusion (fun _ => rfl) effects
  change t.vars = s.vars at sameVars
  have gives := gives_postStep ran behind (ends_nil 1)
  rw [sameVars] at gives
  rcases gives with ⟨a, u, meant, stepped, atEnd⟩ | ⟨e, u, _, failed, found⟩
  · rw [whole_eq_of_postfixed indexed.starts stepped atEnd.token]
    change Meaning.stepBehind effects .increment name ((s.vars.get? name).getD .none) s.vars =
      (.ok a.value, u.vars) at meant
    cases held : s.vars.get? name with
    | none =>
        rw [held] at meant
        cases meant
    | some old =>
        rw [held] at meant
        cases old with
        | int n => exact ⟨n, rfl, (congrArg Prod.snd meant).symm⟩
        | _ => cases meant
  · rw [whole_of_postfixed_error indexed.starts failed found] at succeeds
    cases succeeds

theorem Indexed.whole_changed {change : Change} {old : Option Int64}
    (indexed : Indexed env room x index change.tokens s) (fits : 2 ≤ room)
    (held : s.vars.get? (elementName x.name index.value) = old.map .int)
    (succeeds : (whole env (room + 1) true s).1 = .ok value) :
    ∃ n, change.apply old = some n ∧
      (whole env (room + 1) true s).2.vars =
        s.vars.set (elementName x.name index.value) (.int n) := by
  have short (v : Literal) : v.tokens.length ≤ room :=
    Nat.le_trans (Hop.element v).room_le fits
  -- only an assignment can do without an integer in the element
  cases change with
  | set v =>
      obtain ⟨_, vars⟩ := indexed.whole_assigned (short v) true
      exact ⟨v.value, rfl, vars⟩
  | add v =>
      obtain ⟨result, vars⟩ := indexed.whole_assigned (short v) true
      rw [held] at result vars
      cases old with
      | none =>
          rw [succeeds] at result
          cases result
      | some n => exact ⟨n + v.value, rfl, vars⟩
  | step =>
      obtain ⟨n, isInt, vars⟩ := indexed.whole_stepped succeeds
      rw [held] at isInt
      cases old with
      | none => cases isInt
      | some m =>
          cases isInt
          exact ⟨n + 1, rfl, vars⟩

end Element

/-! ### Elements in a store -/

structure Holds (x : Variable) (held : Int64 → Option Int64) (vars : Store) : Prop where
  unbound : vars.get? x.name = none
  elements : ∀ i, vars.get? (elementName x.name i) = (held i).map .int

theorem elementName_eq_iff (x : Variable) {i j : Int64} :
    elementName x.name i = elementName x.name j ↔ i = j :=
  ⟨fun same => (elementName_inj x.plain x.plain same).2, fun same => by rw [same]⟩

theorem Holds.set {x : Variable} {held : Int64 → Option Int64} {vars : Store}
    (holds : Holds x held vars) (j n : Int64) :
    Holds x (fun i => if i = j then some n else held i) (vars.set (elementName x.name j) (.int n)) where
  unbound := by
    rw [Store.get?_set_of_ne (elementName_ne x.plain x.name j).symm]
    exact holds.unbound
  elements i := by
    rw [Store.get?_set]
    by_cases same : i = j
    · rw [if_pos ((elementName_eq_iff x).mpr same), if_pos same]
      rfl
    · rw [if_neg (same ∘ (elementName_eq_iff x).mp), if_neg same]
      exact holds.elements i

end Session

namespace Calculator

open Session

variable {σ : Type} {env : Surroundings σ} {options : EvalOptions} {x : Variable}
  {c last : Calculator σ} {updates : List Update} {held : Int64 → Option Int64}

inductive Updated (env : Surroundings σ) (options : EvalOptions) (x : Variable) :
    Calculator σ → List Update → Calculator σ → Prop where
  | nothing {c : Calculator σ} : Updated env options x c [] c
  | onward {c last : Calculator σ} {text : String} {u : Update} {updates : List Update}
      {value : Value} (written : Scan.scan options.rules text = ⟨u.tokens x, none⟩)
      (succeeds : (c.evaluate env options text).result = .ok value)
      (others : Updated env options x (c.evaluate env options text).calculator updates last) :
      Updated env options x c (u :: updates) last

theorem vars_of_update (effects : options.sideEffects = true)
    (unresolved : env.host.resolve x.name none 0 = none) (holds : Holds x held c.vars) {u : Update}
    {text : String} (written : Scan.scan options.rules text = ⟨u.tokens x, none⟩) {value : Value}
    (succeeds : (c.evaluate env options text).result = .ok value) :
    ∃ n, u.change.apply (held u.index.value) = some n ∧
      (c.evaluate env options text).calculator.vars =
        c.vars.set (elementName x.name u.index.value) (.int n) := by
  -- a text that succeeds does so with more room, and leaves the same variables
  let room := options.maxDepth + 2
  let roomy : EvalOptions := { options with maxDepth := room + 1 }
  have within : (c.evaluate env options text).result ≠ .error .tooComplex := by
    rw [succeeds]
    exact fun impossible => by cases impossible
  obtain ⟨sameResult, sameCalculator⟩ :=
    evaluate_more_room env (Nat.le_add_right options.maxDepth 3) within
  have scanned : Scan.scan roomy.rules text = ⟨u.tokens x, none⟩ := written
  have result := @result_of_scan _ env roomy c _ _ _ scanned
  have vars := @vars_of_scan _ env roomy c _ _ _ scanned
  have allowed : roomy.sideEffects = true := effects
  have limit : roomy.maxDepth = room + 1 := rfl
  rw [allowed, limit] at result vars
  have indexed : Indexed env room x u.index u.change.tokens
      (c.opening (.word x.name) (pathTokens [.element u.index] ++ u.change.tokens)) :=
    ⟨c.at_opening _ _, unresolved, holds.unbound,
      Nat.le_trans (Hop.element u.index).room_le (Nat.le_add_left 2 _)⟩
  obtain ⟨n, applied, changed⟩ := indexed.whole_changed (Nat.le_add_left 2 _)
    (holds.elements u.index.value) (result.symm.trans (sameResult.trans succeeds))
  rw [← sameCalculator]
  exact ⟨n, applied, vars.trans changed⟩

theorem Updated.replayed (run : Updated env options x c updates last)
    (effects : options.sideEffects = true) (unresolved : env.host.resolve x.name none 0 = none)
    (holds : Holds x held c.vars) :
    Holds x (fun i => Update.replay updates i (held i)) last.vars ∧
      (∀ name, (∀ i, name ≠ elementName x.name i) → last.vars.get? name = c.vars.get? name) ∧
      ∀ u ∈ updates, (Update.replay updates u.index.value (held u.index.value)).isSome = true := by
  induction run generalizing held with
  | nothing => exact ⟨holds, fun _ _ => rfl, List.forall_mem_nil _⟩
  | @onward c last text u updates value written succeeds others ih =>
      obtain ⟨n, applied, vars⟩ := vars_of_update effects unresolved holds written succeeds
      have next := holds.set u.index.value n
      rw [← vars] at next
      obtain ⟨after, elsewhere, isSome⟩ := ih next
      have replayed (i : Int64) : Update.replay (u :: updates) i (held i) =
          Update.replay updates i (if i = u.index.value then some n else held i) := by
        by_cases same : i = u.index.value
        · rw [if_pos same, Update.replay_cons_of_eq same.symm, same, applied]
        · rw [if_neg same, Update.replay_cons_of_ne (Ne.symm same)]
      simp only [replayed]
      refine ⟨after, fun name other => ?_, List.forall_mem_cons.mpr ⟨?_, isSome⟩⟩
      · rw [elsewhere name other, vars, Store.get?_set_of_ne (other u.index.value)]
      · rw [if_pos rfl]
        exact Update.isSome_replay rfl

/-- The elements of a variable are cells of their own. Behind any row of updates that succeeded, an
element holds what the updates with its own index made of it, one after the other, and names nothing
if there were none. Other names and their elements are as before. -/
theorem elements_are_independent (env : Surroundings σ) (options : EvalOptions) (x : Variable)
    (c last : Calculator σ) (updates : List Update) (effects : options.sideEffects = true)
    (unresolved : env.host.resolve x.name none 0 = none) (unbound : c.vars.get? x.name = none)
    (fresh : ∀ i, c.vars.get? (elementName x.name i) = none)
    (run : Updated env options x c updates last) :
    (∀ (index : Literal) (path : String),
      Scan.scan options.rules path = ⟨.word x.name :: pathTokens [.element index], none⟩ →
      index.tokens.length < options.maxDepth →
      let result := (last.evaluate env options path).result
      let unknown := EvalError.symbol (.unknown (elementName x.name index.value))
      result = (Update.replay updates index.value none).elim (.error unknown)
        (fun n => .ok (.int n)) ∧
      (result = .error unknown ↔ ∀ u ∈ updates, u.index.value ≠ index.value)) ∧
    ∀ name, '[' ∉ name.toList →
      last.vars.get? name = c.vars.get? name ∧
      (name ≠ x.name → ∀ i,
        last.vars.get? (elementName name i) = c.vars.get? (elementName name i)) := by
  have nothing : Holds x (fun _ => none) c.vars := ⟨unbound, fresh⟩
  obtain ⟨holds, elsewhere, isSome⟩ := run.replayed effects unresolved nothing
  constructor
  · intro index path scanned enough result unknown
    have indexed : Indexed env (options.maxDepth - 1) x index []
        (last.opening (.word x.name) (pathTokens [.element index])) := by
      refine ⟨?_, unresolved, holds.unbound, by omega⟩
      rw [List.append_nil]
      exact last.at_opening _ _
    -- the updates left what a replay of them gives
    have read : result = (Update.replay updates index.value none).elim (.error unknown)
        (fun n => .ok (.int n)) := by
      have value := indexed.whole_value options.sideEffects
      have room : options.maxDepth - 1 + 1 = options.maxDepth := by omega
      have content : (last.opening (.word x.name) (pathTokens [.element index])).vars.get?
          (elementName x.name index.value) = (Update.replay updates index.value none).map .int :=
        holds.elements index.value
      rw [room, ← result_of_scan scanned, content] at value
      refine value.trans ?_
      cases Update.replay updates index.value none <;> rfl
    refine ⟨read, fun failed u member same => ?_, fun others => ?_⟩
    · obtain ⟨n, isThere⟩ := Option.isSome_iff_exists.mp (isSome u member)
      rw [read, ← same, isThere] at failed
      cases failed
    · rw [read, Update.replay_of_forall_ne others]
      rfl
  · intro name plain
    exact ⟨elsewhere name fun i => (elementName_ne plain x.name i).symm, fun other i =>
      elsewhere _ fun j same => other (elementName_inj plain x.plain same).1⟩

/-- A negative index, which is another one than the positive one, and a name whose own value stays. -/
theorem elements_with_signs :
    let env : Surroundings Unit := ⟨Host.none, none, 0⟩
    let c : Calculator Unit :=
      { random := Random.ofSeed 0, dialog := (), vars := ⟨[("b", .int 1), ("b[-1]", .int 2)]⟩ }
    let texts := ["a[-1] = 5", "a[1] = 7", "a[-1] += -3", "a[-1]++"]
    let last := texts.foldl (fun c text => (c.evaluate env {} text).calculator) c
    (last.evaluate env {} "a[-1]").result = .ok (.int 3) ∧
      (last.evaluate env {} "a[1]").result = .ok (.int 7) ∧
      (last.evaluate env {} "a[0]").result = .error (.symbol (.unknown "a[0]")) ∧
      last.vars.get? "b[-1]" = some (.int 2) := by
  intro env c texts last
  let a : Variable := ⟨"a", by decide, by decide +kernel⟩
  let updates : List Update :=
    [⟨⟨true, 1⟩, .set ⟨false, 5⟩⟩, ⟨⟨false, 1⟩, .set ⟨false, 7⟩⟩, ⟨⟨true, 1⟩, .add ⟨true, 3⟩⟩,
      ⟨⟨true, 1⟩, .step⟩]
  have fresh (i : Int64) : c.vars.get? (elementName a.name i) = none := by
    have other : elementName a.name i ≠ elementName "b" (-1) := by
      intro same
      exact absurd (elementName_inj a.plain (by decide) same).1 (by decide)
    have isName : elementName "b" (-1) = "b[-1]" := by decide
    rw [isName] at other
    change List.lookup (elementName a.name i) [("b", .int 1), ("b[-1]", .int 2)] = none
    rw [Store.lookup_entry, if_neg (elementName_ne (by decide) a.name i), Store.lookup_entry,
      if_neg other]
    rfl
  have positive : ∀ u ∈ updates,
      0 ≤ u.index.constant ∧ ∀ v ∈ u.change.literals, 0 ≤ v.constant := by decide
  have written (u : Update) (member : u ∈ updates) :
      Scan.scan ({} : EvalOptions).rules (u.text a) = ⟨u.tokens a, none⟩ :=
    u.scan_text rfl rfl a (positive u member).1 (positive u member).2
  simp only [updates, List.forall_mem_cons] at written
  obtain ⟨first, second, third, fourth, _⟩ := written
  let c₁ := (c.evaluate env {} "a[-1] = 5").calculator
  let c₂ := (c₁.evaluate env {} "a[1] = 7").calculator
  let c₃ := (c₂.evaluate env {} "a[-1] += -3").calculator
  have run : Updated env {} a c updates last :=
    .onward first (eq_of_isInt (by decide +kernel) :
      (c.evaluate env {} "a[-1] = 5").result = .ok (.int 5)) <|
    .onward second (eq_of_isInt (by decide +kernel) :
      (c₁.evaluate env {} "a[1] = 7").result = .ok (.int 7)) <|
    .onward third (eq_of_isInt (by decide +kernel) :
      (c₂.evaluate env {} "a[-1] += -3").result = .ok (.int 2)) <|
    .onward fourth (eq_of_isInt (by decide +kernel) :
      (c₃.evaluate env {} "a[-1]++").result = .ok (.int 2)) .nothing
  obtain ⟨read, others⟩ := elements_are_independent env {} a c last updates rfl rfl rfl fresh run
  exact ⟨(read ⟨true, 1⟩ "a[-1]" rfl (by decide)).1, (read ⟨false, 1⟩ "a[1]" rfl (by decide)).1,
    (read ⟨false, 0⟩ "a[0]" rfl (by decide)).1,
    (others "b" (by decide)).2 (by decide) (-1)⟩

end Calculator

end TemplateCalc
