import TemplateCalc.Proofs.Steps

/-!
Results of operations.

An operation on values gives a value that can stand alone, whatever it is applied to: never the
placeholder of a name without a value, and never the mark of a container. Where it fails, its error is
neither a missing operand nor an excess of depth. These are made by the levels only.
-/

set_option autoImplicit false

namespace TemplateCalc

/-- Whether a value stands for itself, and not for a missing one or for a container. -/
def Value.isConcrete : Value → Bool
  | none | blob | struct | array => false
  | _ => true

/-- A result that is good, or an error that no level makes. -/
structure Proper {α : Type} (good : α → Prop) (result : Except EvalError α) : Prop where
  ok : ∀ {a}, result = .ok a → good a
  error : ∀ {e}, result = .error e → e ≠ .notImplemented ∧ e ≠ .tooComplex

section Proper

variable {α : Type} {good : α → Prop}

theorem Proper.of_ok {a : α} (isGood : good a) : Proper good (.ok a) where
  ok found := by
    cases found
    exact isGood
  error failed := by cases failed

theorem Proper.of_error {e : EvalError} (found : e ≠ .notImplemented) (shallow : e ≠ .tooComplex) :
    Proper good (.error e) where
  ok impossible := by cases impossible
  error failed := by
    cases failed
    exact ⟨found, shallow⟩

/-- A step behind a result of which nothing else is known. -/
theorem Proper.bind {β : Type} {good' : β → Prop} {result : Except EvalError α}
    (proper : Proper (fun _ => True) result) {f : α → Except EvalError β}
    (next : ∀ a, Proper good' (f a)) : Proper good' (result.bind f) := by
  cases computed : result with
  | error e =>
      obtain ⟨found, shallow⟩ := proper.error computed
      exact .of_error found shallow
  | ok a => exact next a

theorem Proper.map {β : Type} {good' : β → Prop} {result : Except EvalError α}
    (proper : Proper (fun _ => True) result) {f : α → β} (keeps : ∀ a, good' (f a)) :
    Proper good' (result.map f) := by
  cases computed : result with
  | error e =>
      obtain ⟨found, shallow⟩ := proper.error computed
      exact .of_error found shallow
  | ok a => exact .of_ok (keeps a)

theorem proper_type (fault : TypeFault) : Proper good (.error (.type fault)) :=
  .of_error EvalError.noConfusion EvalError.noConfusion

theorem proper_domain (fault : DomainFault) : Proper good (.error (.domain fault)) :=
  .of_error EvalError.noConfusion EvalError.noConfusion

theorem proper_symbol (fault : SymbolFault) : Proper good (.error (.symbol fault)) :=
  .of_error EvalError.noConfusion EvalError.noConfusion

end Proper

abbrev Concrete (result : Except EvalError Value) : Prop :=
  Proper (fun v => v.isConcrete = true) result

/-! ### Operators -/

namespace Value

variable {a b : Value}

theorem concrete_onReals (op : Arith) (f : Float → Float → Float) :
    Concrete (onReals op f a b) := by
  unfold onReals
  split
  · exact .of_ok rfl
  · exact proper_type _

theorem concrete_onInts (op : Arith) (f : Int64 → Int64 → Int64) : Concrete (onInts op f a b) := by
  unfold onInts
  split
  · exact .of_ok rfl
  · exact proper_type _

theorem concrete_mul : Concrete (a.mul b) := by
  unfold mul
  split
  · exact .of_ok rfl
  · exact concrete_onReals _ _

theorem concrete_div : Concrete (a.div b) := by
  unfold div
  split
  · split
    · exact proper_domain _
    · exact .of_ok rfl
  · split
    · split
      · exact proper_domain _
      · exact .of_ok rfl
    · exact proper_type _

theorem concrete_rem : Concrete (a.rem b) := by
  unfold rem
  split
  · split
    · exact proper_domain _
    · exact .of_ok rfl
  · exact proper_type _

theorem concrete_add : Concrete (a.add b) := by
  unfold add
  split
  case h_7 => exact concrete_onReals _ _
  all_goals exact .of_ok rfl

theorem concrete_sub : Concrete (a.sub b) := by
  unfold sub
  split
  case h_5 => exact concrete_onReals _ _
  all_goals exact .of_ok rfl

theorem concrete_arith (op : Arith) : Concrete (a.arith op b) := by
  cases op with
  | mul => exact concrete_mul
  | div => exact concrete_div
  | rem => exact concrete_rem
  | add => exact concrete_add
  | sub => exact concrete_sub
  | shiftLeft | shiftRight | bitAnd | bitXor | bitOr => exact concrete_onInts _ _

theorem proper_compare : Proper (fun _ => True) (a.compare b) := by
  unfold compare
  split
  case h_4 =>
    split
    · exact .of_ok trivial
    · exact proper_type _
  all_goals exact .of_ok trivial

theorem concrete_charAt (i : Int64) : Concrete (a.charAt i) := by
  unfold charAt
  split
  · split
    · exact proper_symbol _
    · split
      · exact .of_ok rfl
      · exact proper_symbol _
  · exact proper_symbol _

end Value

theorem BinaryOp.concrete_apply (op : BinaryOp) (a b : Value) : Concrete (op.apply a b) := by
  cases op with
  | arith op => exact Value.concrete_arith op
  | relation r =>
      change Concrete ((a.compare b).map _)
      exact Value.proper_compare.map fun _ => rfl

theorem PrefixOp.concrete_apply (op : PrefixOp) (a : Value) : Concrete (op.apply a) := by
  unfold PrefixOp.apply
  split
  case h_7 => exact proper_type _
  all_goals exact .of_ok rfl

/-- A plain assignment stores the value of its right side, and a compound one the result of an
operator. -/
theorem Session.proper_assignedValue (op : Option Arith) (old new : Value) :
    Proper (fun v => v = new ∨ v.isConcrete = true) (assignedValue op old new) := by
  unfold assignedValue
  cases op with
  | none => exact .of_ok (.inl rfl)
  | some op =>
      have concrete := @Value.concrete_arith old new op
      simp only
      split
      · exact proper_type _
      · constructor
        · intro v computed
          exact .inr (concrete.ok computed)
        · intro e failed
          exact concrete.error failed

/-! ### Functions and inquiries -/

namespace Numeric

theorem isConcrete_least (args : List Value) : (least args).isConcrete = true := by
  unfold least
  split <;> rfl

theorem isConcrete_greatest (args : List Value) : (greatest args).isConcrete = true := by
  unfold greatest
  split <;> rfl

theorem isConcrete_abs (v : Value) : (Numeric.abs v).isConcrete = true := by
  cases v <;> rfl

theorem concrete_fact (n : Int64) : Concrete (fact n) := by
  unfold fact
  split
  · exact proper_domain _
  · exact .of_ok rfl

theorem concrete_pow (base exponent : Value) : Concrete (pow base exponent) := by
  unfold pow
  split
  · exact .of_ok rfl
  · simp only
    split
    · exact proper_domain _
    · exact .of_ok rfl

theorem concrete_sqrt (v : Value) : Concrete (sqrt v) := by
  unfold sqrt
  split
  · split
    · exact proper_domain _
    · exact .of_ok rfl
  · simp only
    split
    · exact proper_domain _
    · exact .of_ok rfl

end Numeric

namespace Bits

theorem proper_difference (a b : Int64) : Proper (fun _ => True) (difference a b) := by
  unfold difference
  split
  · exact .of_ok trivial
  · exact proper_domain _

theorem proper_mask (v count : Int64) : Proper (fun _ => True) (mask v count) := by
  unfold mask
  split
  · exact .of_ok trivial
  split
  · exact .of_ok trivial
  · exact (proper_difference _ _).map fun _ => trivial

theorem concrete_move (m : Move) (v amount size : Int64) :
    Concrete ((move m v amount size).map .int) := by
  have moved : Proper (fun _ => True) (move m v amount size) := by
    cases m with
    | rotateLeft | rotateRight =>
        refine Proper.bind (Proper.map (proper_difference _ _) fun _ => trivial) fun _ => ?_
        exact proper_mask _ _
    | shiftRight => exact proper_mask _ _
  exact moved.map fun _ => rfl

end Bits

theorem Function.concrete_result? {now : Float} {f : Function} {args : List Value}
    {result : Except EvalError Value} (computed : f.result? now args = some result) :
    Concrete result := by
  cases f with
  | rand | get | getInt | getString | getBool => cases computed
  | abs => cases computed; exact .of_ok (Numeric.isConcrete_abs _)
  | min => cases computed; exact .of_ok (Numeric.isConcrete_least _)
  | max => cases computed; exact .of_ok (Numeric.isConcrete_greatest _)
  | fact => cases computed; exact Numeric.concrete_fact _
  | pow => cases computed; exact Numeric.concrete_pow _ _
  | sqrt => cases computed; exact Numeric.concrete_sqrt _
  | rol | ror | asr => cases computed; exact Bits.concrete_move _ _ _ _
  | _ => cases computed; exact .of_ok rfl

theorem Function.proper_checkArgument (f : Function) (position : Nat) (v : Value) :
    Proper (fun _ => True) (f.checkArgument position v) := by
  unfold checkArgument
  split
  · exact .of_ok trivial
  · exact proper_type _

theorem Session.concrete_answer (inquiry : Inquiry) (found : Subject) :
    Concrete (answer inquiry found) := by
  cases inquiry <;> cases found <;> first | exact .of_ok rfl | exact proper_symbol _

/-! ### Missing operands -/

def Settled {α : Type} (result : Except EvalError α) : Prop :=
  ∀ e, result = .error e → e ≠ .notImplemented

theorem Proper.settled {α : Type} {good : α → Prop} {result : Except EvalError α}
    (proper : Proper good result) : Settled result :=
  fun _ failed => (proper.error failed).1

theorem settled_ok {α : Type} (a : α) : Settled (Except.ok a) := by
  intro e failed
  cases failed

theorem settled_type {α : Type} (fault : TypeFault) :
    Settled (Except.error (.type fault) : Except EvalError α) := by
  intro e failed
  cases failed
  exact EvalError.noConfusion

theorem BinaryOp.settled_apply (op : BinaryOp) (a b : Value) : Settled (op.apply a b) :=
  (op.concrete_apply a b).settled

theorem PrefixOp.settled_apply (op : PrefixOp) (a : Value) : Settled (op.apply a) :=
  (op.concrete_apply a).settled

theorem Session.settled_assignedValue (op : Option Arith) (old new : Value) :
    Settled (assignedValue op old new) :=
  (proper_assignedValue op old new).settled

end TemplateCalc
