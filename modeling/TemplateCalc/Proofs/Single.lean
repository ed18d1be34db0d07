import TemplateCalc.Proofs.Loops

/-!
Operands that stand alone.

Where no operator follows an operand, all levels above hand it on as it is. An error of the operand
is the error of all levels.
-/

set_option autoImplicit false

namespace TemplateCalc.Session

variable {σ : Type} {nested : Nested σ} {effects : Bool} {s t : Session σ} {a : Operand}
  {e : EvalError}

def joins : Token → Bool
  | .operator _ | .both | .either => true
  | _ => false

def goesFurther : Token → Bool
  | .question | .assign _ | .comma => true
  | _ => false

theorem binary_single (ran : nested (.prefixed false) effects s = (.ok a, t))
    (stop : joins t.token = false) (level : Nat) : binary nested effects level s = (.ok a, t) := by
  induction level with
  | zero => exact ran
  | succ level ih =>
      rw [binary, run_bind_ok ih, run_bind_ok (run_get t)]
      apply binaryTail_stop
      intro op viewed
      rw [viewed] at stop
      cases stop

theorem binary_error (failed : nested (.prefixed false) effects s = (.error e, t)) (level : Nat) :
    binary nested effects level s = (.error e, t) := by
  induction level with
  | zero => exact failed
  | succ level ih => rw [binary, run_bind_error ih]

theorem disjunction_single (ran : nested (.prefixed false) effects s = (.ok a, t))
    (stop : joins t.token = false) : disjunction nested effects s = (.ok a, t) := by
  have stops (c : Connective) : c.isToken t.token = false := by
    cases viewed : t.token with
    | both | either =>
        rw [viewed] at stop
        cases stop
    | _ => cases c <;> rfl
  have conjoined : conjunction nested effects s = (.ok a, t) := by
    rw [conjunction, run_bind_ok (binary_single ran stop _), run_bind_ok (run_get t)]
    exact connectiveTail_stop (stops .both) _ _
  rw [disjunction, run_bind_ok conjoined, run_bind_ok (run_get t)]
  exact connectiveTail_stop (stops .either) _ _

theorem disjunction_error (failed : nested (.prefixed false) effects s = (.error e, t)) :
    disjunction nested effects s = (.error e, t) := by
  have conjoined : conjunction nested effects s = (.error e, t) := by
    rw [conjunction, run_bind_error (binary_error failed _)]
  rw [disjunction, run_bind_error conjoined]

theorem conditional_stop (stop : t.token ≠ .question) (condition : Operand) :
    conditional nested effects condition t = (.ok condition, t) := by
  rw [conditional, run_bind_ok (run_peek t)]
  cases viewed : t.token with
  | question => exact absurd viewed stop
  | _ => rfl

theorem assignTo_stop (stop : t.token.isAssign = false) (lhs : Operand) :
    assignTo nested effects lhs t = (.ok lhs, t) := by
  rw [assignTo, run_bind_ok (run_peek t)]
  cases viewed : t.token with
  | assign op =>
      rw [viewed] at stop
      cases stop
  | _ => rfl

theorem ternary_single (ran : nested (.prefixed false) effects s = (.ok a, t))
    (stop : joins t.token = false) (ends : goesFurther t.token = false) :
    ternary nested effects s = (.ok a, t) := by
  rw [ternary, run_bind_ok (disjunction_single ran stop)]
  apply conditional_stop
  intro viewed
  rw [viewed] at ends
  cases ends

/-- A conditional that nothing follows is a row of expressions. -/
theorem comma_of_ternary (ran : ternary nested effects s = (.ok a, t))
    (ends : goesFurther t.token = false) : comma nested effects s = (.ok a, t) := by
  have assigned : assign nested effects s = (.ok a, t) := by
    rw [assign, run_bind_ok ran]
    apply assignTo_stop
    cases viewed : t.token with
    | assign op =>
        rw [viewed] at ends
        cases ends
    | _ => rfl
  rw [comma, run_bind_ok assigned, run_bind_ok (run_get t)]
  apply commaTail_stop
  intro viewed
  rw [viewed] at ends
  cases ends

theorem comma_of_ternary_error (failed : ternary nested effects s = (.error e, t)) :
    comma nested effects s = (.error e, t) := by
  have assigned : assign nested effects s = (.error e, t) := by
    rw [assign, run_bind_error failed]
  rw [comma, run_bind_error assigned]

theorem ternary_error (failed : nested (.prefixed false) effects s = (.error e, t)) :
    ternary nested effects s = (.error e, t) := by
  rw [ternary, run_bind_error (disjunction_error failed)]

/-! ### Conditions that are constant -/

section Conditional

variable {u v w : Session σ} {token token' : Token}

/-- A conditional whose first branch is taken. -/
theorem conditional_first (viewed : s.token = .question) (passed : advance s = (.ok token, t))
    (taken : nested .comma effects t = (.ok a, u)) (colon : u.token = .colon)
    (passed' : advance u = (.ok token', v)) (skipped : skipOperand .second v = (.ok (), w)) :
    conditional nested effects { value := .bool true } s = (.ok { value := a.value }, w) := by
  rw [conditional, run_bind_ok (run_peek s), viewed]
  simp only [if_true]
  rw [run_bind_ok (run_pass_ok passed), run_bind_ok (run_orMissing_ok taken)]
  have found : expect isColon .colonExpected u = (.ok (), v) :=
    run_expect_ok (by rw [colon]; rfl) passed'
  rw [run_bind_ok found, run_bind_ok (run_orMissing_ok skipped)]
  rfl

theorem conditional_first_error (viewed : s.token = .question)
    (passed : advance s = (.ok token, t)) (failed : nested .comma effects t = (.error e, u))
    (found : e ≠ .notImplemented) :
    conditional nested effects { value := .bool true } s = (.error e, u) := by
  rw [conditional, run_bind_ok (run_peek s), viewed]
  simp only [if_true]
  rw [run_bind_ok (run_pass_ok passed), run_bind_error (run_orMissing_error failed),
    orMissing_of_ne found]

/-- What a conditional does whose second branch is taken, up to that branch. -/
theorem conditional_second (viewed : s.token = .question) (passed : advance s = (.ok token, t))
    (skipped : skipOperand .first t = (.ok (), u)) (colon : u.token = .colon)
    (passed' : advance u = (.ok token', v)) :
    conditional nested effects { value := .bool false } s =
      (do
        let result ← orMissing .elseBranch (nested .ternary effects)
        return { value := result.value } : Eval σ Operand) v := by
  rw [conditional, run_bind_ok (run_peek s), viewed]
  simp only [Bool.false_eq_true, if_false]
  rw [run_bind_ok (run_pass_ok passed), run_bind_ok (run_orMissing_ok skipped)]
  have found : expect isColon .colonExpected u = (.ok (), v) :=
    run_expect_ok (by rw [colon]; rfl) passed'
  rw [run_bind_ok found]

end Conditional

end TemplateCalc.Session
