import TemplateCalc.Proofs.Steps

/-!
Classes of steps.

The levels of an evaluation are put together from few steps: to look at the state, to pass over tokens,
to write to the journal, to set a variable where effects are allowed, to go one level deeper, and what
the functions of the host do. A class that holds these and is closed under sequences of steps holds
every evaluation. This module walks through the levels once.
-/

set_option autoImplicit false

namespace TemplateCalc

def Event.inDialog : Event → Bool
  | .asking .. | .shown _ => true
  | _ => false

namespace Session

variable {σ α β : Type}

/-- A class of steps that is closed under all that levels do by themselves. `allowed` says with which
settings of the effects flag levels are run. Errors are only replaced if they say that nothing was
found. -/
structure Closed (Kept : (α : Type) → Eval σ α → Prop) (allowed : Bool → Prop) : Prop where
  mask : ∀ {effects} other, allowed effects → allowed (effects && other)
  keeps_pure : ∀ {α : Type} (a : α), Kept α (pure a)
  keeps_throw : ∀ {α : Type} (e : EvalError), Kept α (throw e)
  keeps_bind : ∀ {α β : Type} {m : Eval σ α} {f : α → Eval σ β}, Kept α m → (∀ a, Kept β (f a)) →
    Kept β (m >>= f)
  keeps_rethrow : ∀ {α : Type} {m : Eval σ α} (change : EvalError → EvalError),
    (∀ e, e ≠ .notImplemented → change e = e) → Kept α m →
    Kept α (tryCatch m fun e => throw (change e))
  keeps_get : Kept _ get
  keeps_advance : Kept _ advance
  keeps_skipOperand : ∀ branch, Kept _ (skipOperand branch)
  keeps_note : ∀ event, event.inDialog = false → Kept _ (note event)
  keeps_store : ∀ {effects}, allowed effects → ∀ name value, Kept _ (store effects name value)
  keeps_deeper : ∀ {α : Type} {m : Eval σ α}, Kept α m → Kept α (deeper m)

def Hosting (Kept : (α : Type) → Eval σ α → Prop) (allowed : Bool → Prop) (env : Surroundings σ) :
    Prop :=
  ∀ effects f args, allowed effects → Kept _ (hosted env effects f args)

structure Answering (Kept : (α : Type) → Eval σ α → Prop) (allowed : Bool → Prop)
    (env : Surroundings σ) : Prop where
  draws : ∀ effects args, Kept _ (hosted env effects .rand args)
  integer : allowed true → ∀ prompt initial least greatest, Kept _ (ask env .getInt .integer prompt
    fun d => d.askInteger prompt initial least greatest)
  text : allowed true → ∀ prompt initial, Kept _ (ask env .getString .text prompt
    fun d => d.askText prompt initial)
  choice : allowed true → ∀ prompt yes no, Kept _ (ask env .getBool .choice prompt
    fun d => d.askChoice prompt yes no)

namespace Closed

variable {Kept : (α : Type) → Eval σ α → Prop} {allowed : Bool → Prop}

/-! ### Steps -/

theorem keeps_orMissing (closed : Closed Kept allowed) (operand : MissingOperand) {m : Eval σ α}
    (kept : Kept _ m) : Kept _ (orMissing operand m) :=
  closed.keeps_rethrow _ (fun _ found => orMissing_of_ne found) kept

theorem keeps_orNoVariable (closed : Closed Kept allowed) (step : Step) {m : Eval σ α}
    (kept : Kept _ m) : Kept _ (tryCatch m fun e => throw (e.orNoVariable step)) := by
  apply closed.keeps_rethrow _ ?_ kept
  intro e found
  cases e with
  | notImplemented => exact absurd rfl found
  | _ => rfl

theorem keeps_pass (closed : Closed Kept allowed) : Kept _ (discard advance : Eval σ Unit) := by
  have same : (discard advance : Eval σ Unit) = advance >>= fun _ => pure () :=
    funext (discard_eq_bind advance)
  rw [same]
  exact closed.keeps_bind closed.keeps_advance fun _ => closed.keeps_pure _

theorem keeps_peek (closed : Closed Kept allowed) : Kept _ (peek : Eval σ Token) :=
  closed.keeps_bind closed.keeps_get fun _ => closed.keeps_pure _

theorem keeps_ofExcept (closed : Closed Kept allowed) (result : Except EvalError α) :
    Kept _ (ofExcept result : Eval σ α) := by
  cases result with
  | ok a => exact closed.keeps_pure a
  | error e => exact closed.keeps_throw e

theorem keeps_varValue? (closed : Closed Kept allowed) (name : String) :
    Kept _ (varValue? name : Eval σ (Option Value)) :=
  closed.keeps_bind closed.keeps_get fun _ => closed.keeps_pure _

theorem keeps_expect (closed : Closed Kept allowed) (wanted : Token → Bool) (fault : GrammarFault) :
    Kept _ (expect wanted fault : Eval σ Unit) := by
  unfold expect
  apply closed.keeps_bind closed.keeps_peek
  intro token
  split
  · exact closed.keeps_pass
  · exact closed.keeps_throw _

theorem keeps_lookup (closed : Closed Kept allowed) (env : Surroundings σ) (name : String)
    (parent : Option Symbol) (index : Nat) : Kept _ (lookup env name parent index) :=
  closed.keeps_bind (closed.keeps_note _ rfl) fun _ => closed.keeps_pure _

/-! ### Levels -/

def Nesting (Kept : (α : Type) → Eval σ α → Prop) (allowed : Bool → Prop) (nested : Nested σ) :
    Prop :=
  ∀ p effects, allowed effects → Kept _ (nested p effects)

variable {nested : Nested σ} {effects : Bool}

theorem keeps_binaryTail (closed : Closed Kept allowed) (level : Nat) {operand : Eval σ Operand}
    (kept : Kept _ operand) (rounds : List Token) (lhs : Operand) :
    Kept _ (binaryTail level operand rounds lhs) := by
  induction rounds generalizing lhs with
  | nil => exact closed.keeps_pure lhs
  | cons round rounds ih =>
      unfold binaryTail
      apply closed.keeps_bind closed.keeps_peek
      intro token
      split
      · split
        · apply closed.keeps_bind closed.keeps_pass
          intro _
          apply closed.keeps_bind (closed.keeps_orMissing _ kept)
          intro rhs
          apply closed.keeps_bind (closed.keeps_ofExcept _)
          intro value
          exact ih _
        · exact closed.keeps_pure lhs
      · exact closed.keeps_pure lhs

theorem keeps_binary (closed : Closed Kept allowed) (nesting : Nesting Kept allowed nested)
    (permitted : allowed effects) (level : Nat) : Kept _ (binary nested effects level) := by
  induction level with
  | zero => exact nesting _ _ permitted
  | succ level ih =>
      apply closed.keeps_bind ih
      intro lhs
      apply closed.keeps_bind closed.keeps_get
      intro s
      exact closed.keeps_binaryTail _ ih _ lhs

theorem keeps_connectiveTail (closed : Closed Kept allowed) (c : Connective)
    {operand : Bool → Eval σ Operand}
    (kept : ∀ effects, allowed effects → Kept _ (operand effects)) (permitted : allowed effects)
    (rounds : List Token) (lhs : Operand) :
    Kept _ (connectiveTail c operand effects rounds lhs) := by
  induction rounds generalizing lhs with
  | nil => exact closed.keeps_pure lhs
  | cons round rounds ih =>
      unfold connectiveTail
      apply closed.keeps_bind closed.keeps_peek
      intro token
      split
      · apply closed.keeps_bind closed.keeps_pass
        intro _
        apply closed.keeps_bind (closed.keeps_orMissing _ (kept _ (closed.mask _ permitted)))
        intro rhs
        split
        · exact ih _
        · exact closed.keeps_throw _
      · exact closed.keeps_pure lhs

theorem keeps_conjunction (closed : Closed Kept allowed) (nesting : Nesting Kept allowed nested)
    (permitted : allowed effects) : Kept _ (conjunction nested effects) := by
  apply closed.keeps_bind (closed.keeps_binary nesting permitted _)
  intro lhs
  apply closed.keeps_bind closed.keeps_get
  intro s
  exact closed.keeps_connectiveTail _ (fun _ granted => closed.keeps_binary nesting granted _)
    permitted _ lhs

theorem keeps_disjunction (closed : Closed Kept allowed) (nesting : Nesting Kept allowed nested)
    (permitted : allowed effects) : Kept _ (disjunction nested effects) := by
  apply closed.keeps_bind (closed.keeps_conjunction nesting permitted)
  intro lhs
  apply closed.keeps_bind closed.keeps_get
  intro s
  exact closed.keeps_connectiveTail _ (fun _ granted => closed.keeps_conjunction nesting granted)
    permitted _ lhs

theorem keeps_conditional (closed : Closed Kept allowed) (nesting : Nesting Kept allowed nested)
    (permitted : allowed effects) (condition : Operand) :
    Kept _ (conditional nested effects condition) := by
  apply closed.keeps_bind closed.keeps_peek
  intro token
  split
  · split
    · apply closed.keeps_bind closed.keeps_pass
      intro _
      split
      · apply closed.keeps_bind (closed.keeps_orMissing _ (nesting _ _ permitted))
        intro result
        apply closed.keeps_bind (closed.keeps_expect _ _)
        intro _
        apply closed.keeps_bind (closed.keeps_orMissing _ (closed.keeps_skipOperand _))
        intro _
        exact closed.keeps_pure _
      · apply closed.keeps_bind (closed.keeps_orMissing _ (closed.keeps_skipOperand _))
        intro _
        apply closed.keeps_bind (closed.keeps_expect _ _)
        intro _
        apply closed.keeps_bind (closed.keeps_orMissing _ (nesting _ _ permitted))
        intro result
        exact closed.keeps_pure _
    · exact closed.keeps_throw _
  · exact closed.keeps_pure _

theorem keeps_ternary (closed : Closed Kept allowed) (nesting : Nesting Kept allowed nested)
    (permitted : allowed effects) : Kept _ (ternary nested effects) := by
  apply closed.keeps_bind (closed.keeps_disjunction nesting permitted)
  intro condition
  exact closed.keeps_conditional nesting permitted condition

theorem keeps_assignTo (closed : Closed Kept allowed) (nesting : Nesting Kept allowed nested)
    (permitted : allowed effects) (lhs : Operand) : Kept _ (assignTo nested effects lhs) := by
  apply closed.keeps_bind closed.keeps_peek
  intro token
  split
  · split
    · exact closed.keeps_throw _
    · apply closed.keeps_bind closed.keeps_pass
      intro _
      apply closed.keeps_bind (closed.keeps_orMissing _ (nesting _ _ permitted))
      intro rhs
      apply closed.keeps_bind (closed.keeps_ofExcept _)
      intro value
      split
      · apply closed.keeps_bind (closed.keeps_note _ rfl)
        intro _
        apply closed.keeps_bind (closed.keeps_store permitted _ _)
        intro _
        exact closed.keeps_pure _
      · apply closed.keeps_bind (closed.keeps_store permitted _ _)
        intro _
        exact closed.keeps_pure _
  · exact closed.keeps_pure _

theorem keeps_assign (closed : Closed Kept allowed) (nesting : Nesting Kept allowed nested)
    (permitted : allowed effects) : Kept _ (assign nested effects) := by
  apply closed.keeps_bind (closed.keeps_ternary nesting permitted)
  intro lhs
  exact closed.keeps_assignTo nesting permitted lhs

theorem keeps_commaTail (closed : Closed Kept allowed) {expression : Eval σ Operand}
    (kept : Kept _ expression) (rounds : List Token) (last : Operand) :
    Kept _ (commaTail expression rounds last) := by
  induction rounds generalizing last with
  | nil => exact closed.keeps_pure last
  | cons round rounds ih =>
      unfold commaTail
      apply closed.keeps_bind closed.keeps_peek
      intro token
      split
      · apply closed.keeps_bind closed.keeps_pass
        intro _
        apply closed.keeps_bind (closed.keeps_orMissing _ kept)
        intro next
        exact ih next
      · exact closed.keeps_pure last

theorem keeps_comma (closed : Closed Kept allowed) (nesting : Nesting Kept allowed nested)
    (permitted : allowed effects) : Kept _ (comma nested effects) := by
  apply closed.keeps_bind (closed.keeps_assign nesting permitted)
  intro first
  apply closed.keeps_bind closed.keeps_get
  intro s
  exact closed.keeps_commaTail (closed.keeps_assign nesting permitted) _ first

/-! ### Operands -/

theorem keeps_index (closed : Closed Kept allowed) (nesting : Nesting Kept allowed nested)
    (permitted : allowed effects) (fault : TypeFault) : Kept _ (index nested effects fault) := by
  apply closed.keeps_bind closed.keeps_pass
  intro _
  apply closed.keeps_bind (closed.keeps_orMissing _ (closed.keeps_comma nesting permitted))
  intro operand
  split
  · apply closed.keeps_bind (closed.keeps_expect _ _)
    intro _
    exact closed.keeps_pure _
  · exact closed.keeps_throw _

variable (env : Surroundings σ)

theorem keeps_memberNamed (closed : Closed Kept allowed) (parent : Symbol) (name : String) :
    Kept _ (memberNamed env parent name) := by
  apply closed.keeps_bind (closed.keeps_lookup _ _ _ _)
  intro symbol
  split
  · exact closed.keeps_pure _
  · exact closed.keeps_throw _

theorem keeps_member (closed : Closed Kept allowed) (parent : Symbol) :
    Kept _ (member env parent) := by
  apply closed.keeps_bind closed.keeps_pass
  intro _
  apply closed.keeps_bind closed.keeps_advance
  intro token
  split
  · exact closed.keeps_memberNamed env parent _
  · exact closed.keeps_memberNamed env parent _
  · exact closed.keeps_throw _

theorem keeps_element (closed : Closed Kept allowed) (nesting : Nesting Kept allowed nested)
    (permitted : allowed effects) (parent : Symbol) :
    Kept _ (element env nested effects parent) := by
  apply closed.keeps_bind (closed.keeps_index nesting permitted _)
  intro i
  split
  · exact closed.keeps_throw _
  · apply closed.keeps_bind (closed.keeps_lookup _ _ _ _)
    intro symbol
    split
    · exact closed.keeps_pure _
    · exact closed.keeps_throw _

theorem keeps_scalar (closed : Closed Kept allowed) (value : Value) :
    Kept _ (scalar value : Eval σ Value) := by
  cases value <;> first | exact closed.keeps_throw _ | exact closed.keeps_pure _

theorem keeps_navigate (closed : Closed Kept allowed) (nesting : Nesting Kept allowed nested)
    (permitted : allowed effects) (rounds : List Token) (symbol : Symbol) :
    Kept _ (navigate env nested effects rounds symbol) := by
  induction rounds generalizing symbol with
  | nil => exact closed.keeps_scalar _
  | cons round rounds ih =>
      unfold navigate
      apply closed.keeps_bind closed.keeps_peek
      intro token
      split
      · exact closed.keeps_bind (closed.keeps_member env symbol) ih
      · exact closed.keeps_bind (closed.keeps_element env nesting permitted symbol) ih
      · exact closed.keeps_bind (closed.keeps_element env nesting permitted symbol) ih
      · exact closed.keeps_scalar _

theorem keeps_indexedName (closed : Closed Kept allowed) (nesting : Nesting Kept allowed nested)
    (permitted : allowed effects) (name : String) : Kept _ (indexedName nested effects name) := by
  apply closed.keeps_bind closed.keeps_peek
  intro token
  split
  · apply closed.keeps_bind (closed.keeps_index nesting permitted _)
    intro i
    exact closed.keeps_pure _
  · exact closed.keeps_pure _

theorem keeps_named (closed : Closed Kept allowed) (nesting : Nesting Kept allowed nested)
    (permitted : allowed effects) (stepWaits : Bool) (name : String) :
    Kept _ (named env nested stepWaits effects name) := by
  apply closed.keeps_bind (closed.keeps_varValue? _)
  intro value
  split
  · exact closed.keeps_pure _
  · apply closed.keeps_bind (closed.keeps_lookup _ _ _ _)
    intro symbol
    split
    · apply closed.keeps_bind closed.keeps_get
      intro s
      apply closed.keeps_bind (closed.keeps_navigate env nesting permitted _ _)
      intro value
      exact closed.keeps_pure _
    · apply closed.keeps_bind (closed.keeps_indexedName nesting permitted _)
      intro name
      apply closed.keeps_bind (closed.keeps_varValue? _)
      intro value
      split
      · exact closed.keeps_pure _
      · apply closed.keeps_bind closed.keeps_peek
        intro token
        split
        · exact closed.keeps_pure _
        · exact closed.keeps_throw _

theorem keeps_isUnbound (closed : Closed Kept allowed) (word : String) :
    Kept _ (isUnbound env word) := by
  unfold isUnbound
  split
  · exact closed.keeps_pure _
  · apply closed.keeps_bind (closed.keeps_varValue? _)
    intro value
    split
    · exact closed.keeps_pure _
    · apply closed.keeps_bind (closed.keeps_lookup _ _ _ _)
      intro symbol
      exact closed.keeps_pure _

theorem keeps_pathEnd (closed : Closed Kept allowed) (symbol : Symbol) :
    Kept _ (pathEnd symbol : Eval σ Symbol) := by
  apply closed.keeps_bind closed.keeps_peek
  intro token
  split
  · exact closed.keeps_throw _
  · exact closed.keeps_throw _
  · exact closed.keeps_pure _

theorem keeps_pathFrom (closed : Closed Kept allowed) (nesting : Nesting Kept allowed nested)
    (permitted : allowed effects) (rounds : List Token) (symbol : Symbol) :
    Kept _ (pathFrom env nested effects rounds symbol) := by
  induction rounds generalizing symbol with
  | nil => exact closed.keeps_pathEnd _
  | cons round rounds ih =>
      unfold pathFrom
      apply closed.keeps_bind closed.keeps_peek
      intro token
      split
      · exact closed.keeps_bind (closed.keeps_member env symbol) ih
      · exact closed.keeps_bind (closed.keeps_element env nesting permitted symbol) ih
      · exact closed.keeps_bind (closed.keeps_element env nesting permitted symbol) ih
      · exact closed.keeps_pathEnd _

theorem keeps_subject (closed : Closed Kept allowed) (nesting : Nesting Kept allowed nested)
    (permitted : allowed effects) (name : String) : Kept _ (subject env nested effects name) := by
  apply closed.keeps_bind (closed.keeps_varValue? _)
  intro value
  split
  · exact closed.keeps_pure _
  · apply closed.keeps_bind (closed.keeps_lookup _ _ _ _)
    intro symbol
    split
    · apply closed.keeps_bind closed.keeps_get
      intro s
      apply closed.keeps_bind (closed.keeps_pathFrom env nesting permitted _ _)
      intro symbol
      exact closed.keeps_pure _
    · apply closed.keeps_bind (closed.keeps_indexedName nesting permitted _)
      intro name
      apply closed.keeps_bind (closed.keeps_varValue? _)
      intro value
      split
      · exact closed.keeps_pure _
      · exact closed.keeps_pure _

theorem keeps_subjectName (closed : Closed Kept allowed) : Kept _ (subjectName : Eval σ String) := by
  apply closed.keeps_bind closed.keeps_advance
  intro token
  split
  · exact closed.keeps_pure _
  · exact closed.keeps_throw _

theorem keeps_inquire (closed : Closed Kept allowed) (nesting : Nesting Kept allowed nested)
    (permitted : allowed effects) (inquiry : Inquiry) :
    Kept _ (inquire env nested effects inquiry) := by
  apply closed.keeps_bind closed.keeps_peek
  intro token
  split
  · apply closed.keeps_bind closed.keeps_pass
    intro _
    apply closed.keeps_bind closed.keeps_subjectName
    intro name
    apply closed.keeps_bind (closed.keeps_subject env nesting permitted name)
    intro found
    apply closed.keeps_bind (closed.keeps_expect _ _)
    intro _
    apply closed.keeps_bind (closed.keeps_ofExcept _)
    intro value
    exact closed.keeps_pure _
  · split
    · apply closed.keeps_bind closed.keeps_subjectName
      intro name
      apply closed.keeps_bind (closed.keeps_subject env nesting permitted name)
      intro found
      apply closed.keeps_bind (closed.keeps_ofExcept _)
      intro value
      exact closed.keeps_pure _
    · exact closed.keeps_throw _

/-! ### Function calls -/

theorem keeps_arguments (closed : Closed Kept allowed) (nesting : Nesting Kept allowed nested)
    (permitted : allowed effects) (f : Function) (rounds : List Token) (args : List Value) :
    Kept _ (arguments nested effects f rounds args) := by
  induction rounds generalizing args with
  | nil => exact closed.keeps_pure _
  | cons round rounds ih =>
      apply closed.keeps_bind (closed.keeps_orMissing _ (closed.keeps_assign nesting permitted))
      intro operand
      apply closed.keeps_bind (closed.keeps_ofExcept _)
      intro _
      apply closed.keeps_bind closed.keeps_peek
      intro token
      split
      · apply closed.keeps_bind closed.keeps_pass
        intro _
        exact ih _
      · split
        · exact closed.keeps_throw _
        · exact closed.keeps_pure _

/-- The functions of the host belong to a class that holds what they do. -/
theorem hosting (closed : Closed Kept allowed) (answering : Answering Kept allowed env) :
    Hosting Kept allowed env := by
  intro effects f args permitted
  -- only these functions depend on more than their arguments
  cases f with
  | rand => exact answering.draws effects args
  | get =>
      unfold hosted
      simp only
      split
      · apply closed.keeps_bind (closed.keeps_ofExcept _)
        intro bytes
        exact closed.keeps_pure _
      · exact closed.keeps_throw _
  | getInt =>
      cases effects with
      | false => exact closed.keeps_pure _
      | true =>
          apply closed.keeps_bind (answering.integer permitted _ _ _ _)
          intro n
          exact closed.keeps_pure _
  | getString =>
      cases effects with
      | false => exact closed.keeps_pure _
      | true =>
          apply closed.keeps_bind (answering.text permitted _ _)
          intro text
          exact closed.keeps_pure _
  | getBool =>
      cases effects with
      | false => exact closed.keeps_pure _
      | true =>
          apply closed.keeps_bind (answering.choice permitted _ _ _)
          intro b
          exact closed.keeps_pure _
  | _ => exact closed.keeps_throw _

theorem keeps_applyFunction (closed : Closed Kept allowed)
    (hosting : Hosting Kept allowed env) (permitted : allowed effects) (f : Function)
    (args : List Value) : Kept _ (applyFunction env effects f args) := by
  unfold applyFunction
  split
  · exact closed.keeps_ofExcept _
  · exact hosting effects f args permitted

theorem keeps_closeCall (closed : Closed Kept allowed)
    (hosting : Hosting Kept allowed env) (permitted : allowed effects) (f : Function)
    (args : List Value) : Kept _ (closeCall env effects f args) := by
  apply closed.keeps_bind closed.keeps_peek
  intro token
  split
  · apply closed.keeps_bind closed.keeps_pass
    intro _
    apply closed.keeps_bind (closed.keeps_applyFunction env hosting permitted f args)
    intro value
    exact closed.keeps_pure _
  · exact closed.keeps_throw _

theorem keeps_call (closed : Closed Kept allowed)
    (hosting : Hosting Kept allowed env) (nesting : Nesting Kept allowed nested)
    (permitted : allowed effects) (f : Function) : Kept _ (call env nested effects f) := by
  apply closed.keeps_bind closed.keeps_peek
  intro token
  split
  · apply closed.keeps_bind closed.keeps_pass
    intro _
    split
    · exact closed.keeps_closeCall env hosting permitted f _
    · apply closed.keeps_bind closed.keeps_get
      intro s
      apply closed.keeps_bind (closed.keeps_arguments nesting permitted f _ _)
      intro args
      exact closed.keeps_closeCall env hosting permitted f _
  · exact closed.keeps_throw _

/-! ### Productions -/

theorem keeps_wordOperand (closed : Closed Kept allowed)
    (hosting : Hosting Kept allowed env) (nesting : Nesting Kept allowed nested)
    (permitted : allowed effects) (stepWaits : Bool) (word : String) :
    Kept _ (wordOperand env nested stepWaits effects word) := by
  unfold wordOperand
  simp only
  split
  · exact closed.keeps_pure _
  · split
    · exact closed.keeps_pure _
    · split
      · exact closed.keeps_pure _
      · split
        · exact closed.keeps_throw _
        · split
          · exact closed.keeps_inquire env nesting permitted _
          · exact closed.keeps_call env hosting nesting permitted _
          · exact closed.keeps_named env nesting permitted _ _

theorem keeps_primary (closed : Closed Kept allowed)
    (hosting : Hosting Kept allowed env) (nesting : Nesting Kept allowed nested)
    (permitted : allowed effects) (stepWaits : Bool) :
    Kept _ (primary env nested stepWaits effects) := by
  apply closed.keeps_bind closed.keeps_peek
  intro token
  split
  · exact closed.keeps_bind closed.keeps_pass fun _ => closed.keeps_pure _
  · exact closed.keeps_bind closed.keeps_pass fun _ => closed.keeps_pure _
  · exact closed.keeps_bind closed.keeps_pass fun _ => closed.keeps_pure _
  · exact closed.keeps_bind closed.keeps_pass fun _ => closed.keeps_named env nesting permitted _ _
  · exact closed.keeps_bind closed.keeps_pass fun _ =>
      closed.keeps_wordOperand env hosting nesting permitted _ _
  · apply closed.keeps_bind closed.keeps_pass
    intro _
    apply closed.keeps_bind (closed.keeps_orMissing _ (closed.keeps_comma nesting permitted))
    intro inner
    apply closed.keeps_bind (closed.keeps_expect _ _)
    intro _
    exact closed.keeps_pure _
  · exact closed.keeps_throw _

theorem keeps_postfixTail (closed : Closed Kept allowed) (nesting : Nesting Kept allowed nested)
    (permitted : allowed effects) (rounds : List Token) (operand : Operand) :
    Kept _ (postfixTail nested effects rounds operand) := by
  induction rounds generalizing operand with
  | nil => exact closed.keeps_pure _
  | cons round rounds ih =>
      unfold postfixTail
      apply closed.keeps_bind closed.keeps_peek
      intro token
      split
      · split
        · apply closed.keeps_bind (closed.keeps_index nesting permitted _)
          intro i
          apply closed.keeps_bind (closed.keeps_ofExcept _)
          intro value
          exact ih _
        · exact closed.keeps_throw _
      · exact closed.keeps_throw _
      · apply closed.keeps_bind closed.keeps_pass
        intro _
        split
        · apply closed.keeps_bind (closed.keeps_store permitted _ _)
          intro _
          exact ih _
        · exact closed.keeps_throw _
      · exact closed.keeps_pure _

theorem keeps_postfixed (closed : Closed Kept allowed)
    (hosting : Hosting Kept allowed env) (nesting : Nesting Kept allowed nested)
    (permitted : allowed effects) (stepWaits : Bool) :
    Kept _ (postfixed env nested stepWaits effects) := by
  apply closed.keeps_bind (closed.keeps_primary env hosting nesting permitted _)
  intro operand
  apply closed.keeps_bind closed.keeps_get
  intro s
  exact closed.keeps_postfixTail nesting permitted _ _

theorem keeps_prefixOp (closed : Closed Kept allowed) (nesting : Nesting Kept allowed nested)
    (permitted : allowed effects) (op : PrefixOp) : Kept _ (prefixOp nested effects op) := by
  apply closed.keeps_bind closed.keeps_pass
  intro _
  apply closed.keeps_bind (closed.keeps_orMissing _ (nesting _ _ permitted))
  intro operand
  apply closed.keeps_bind (closed.keeps_ofExcept _)
  intro value
  exact closed.keeps_pure _

theorem keeps_stepWaitsFor (closed : Closed Kept allowed) (token : Token) :
    Kept _ (stepWaitsFor env token) := by
  cases token with
  | word word => exact closed.keeps_isUnbound env word
  | _ => exact closed.keeps_pure _

theorem keeps_applyPreStep (closed : Closed Kept allowed) (permitted : allowed effects) (step : Step)
    (operand : Operand) : Kept _ (applyPreStep effects step operand : Eval σ Operand) := by
  unfold applyPreStep
  split
  · apply closed.keeps_bind (closed.keeps_store permitted _ _)
    intro _
    exact closed.keeps_pure _
  · exact closed.keeps_throw _

theorem keeps_preStep (closed : Closed Kept allowed) (nesting : Nesting Kept allowed nested)
    (permitted : allowed effects) (step : Step) : Kept _ (preStep env nested effects step) := by
  apply closed.keeps_bind closed.keeps_pass
  intro _
  apply closed.keeps_bind closed.keeps_peek
  intro token
  apply closed.keeps_bind (closed.keeps_stepWaitsFor env token)
  intro stepWaits
  apply closed.keeps_bind
  · exact closed.keeps_orNoVariable step (nesting _ _ permitted)
  · intro operand
    exact closed.keeps_applyPreStep permitted step operand

theorem keeps_prefixed (closed : Closed Kept allowed)
    (hosting : Hosting Kept allowed env) (nesting : Nesting Kept allowed nested)
    (permitted : allowed effects) (stepWaits : Bool) :
    Kept _ (prefixed env nested stepWaits effects) := by
  apply closed.keeps_bind closed.keeps_peek
  intro token
  split
  · exact closed.keeps_prefixOp nesting permitted _
  · exact closed.keeps_prefixOp nesting permitted _
  · exact closed.keeps_prefixOp nesting permitted _
  · exact closed.keeps_prefixOp nesting permitted _
  · exact closed.keeps_preStep env nesting permitted _
  · exact closed.keeps_postfixed env hosting nesting permitted _

theorem keeps_production (closed : Closed Kept allowed)
    (hosting : Hosting Kept allowed env) (nesting : Nesting Kept allowed nested)
    (permitted : allowed effects) (p : Production) :
    Kept _ (production env nested p effects) := by
  cases p with
  | comma => exact closed.keeps_comma nesting permitted
  | assign => exact closed.keeps_assign nesting permitted
  | ternary => exact closed.keeps_ternary nesting permitted
  | prefixed stepWaits => exact closed.keeps_prefixed env hosting nesting permitted stepWaits

/-- The relation is kept by nested productions, however deep they may nest. -/
theorem nesting (closed : Closed Kept allowed)
    (hosting : Hosting Kept allowed env) (room : Nat) : Nesting Kept allowed (nest env room) := by
  induction room with
  | zero =>
      intro p effects _permitted
      exact closed.keeps_throw _
  | succ room ih =>
      intro p effects permitted
      exact closed.keeps_deeper (closed.keeps_production env hosting ih permitted p)

theorem keeps_whole (closed : Closed Kept allowed)
    (hosting : Hosting Kept allowed env) (maxDepth : Nat) (permitted : allowed effects) :
    Kept _ (whole env maxDepth effects) := by
  apply closed.keeps_bind
  · exact closed.keeps_orMissing _ (closed.keeps_comma (closed.nesting env hosting maxDepth) permitted)
  · intro operand
    apply closed.keeps_bind closed.keeps_peek
    intro token
    split
    · exact closed.keeps_pure _
    · exact closed.keeps_throw _

end Closed

end Session

end TemplateCalc
