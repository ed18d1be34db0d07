import TemplateCalc.Proofs.Contract.Basic

/-!
The levels from the comma down to the binary operators uphold a contract.

A branch of a conditional and the right side of an assignment are entered behind an operand and the
token that asks for them. The level that reads them therefore remembers the state in front of that
operand.
-/

set_option autoImplicit false

namespace TemplateCalc.Session.Contract

variable {σ : Type} {k : Contract σ} {env : Surroundings σ} {s : Session σ}

structure Nesting (k : Contract σ) (nested nested' : Nested σ) : Prop where
  taking : Taking nested
  upholds : ∀ {p : Production} {s} (effects : Bool), k.enters p s →
    k.Upholds (nested p effects) (nested' p effects) s (k.Fit (awaited p))

variable {nested nested' : Nested σ} {effects : Bool}

/-! ### Binary and logical operators -/

theorem upholds_binaryTail (lawful : k.Lawful env) (level : Nat) {operand operand' : Eval σ Operand}
    (step : ∀ {s}, k.holds s → k.Upholds operand operand' s (k.Fit (awaited .ternary)))
    (rounds : List Token) (lhs : Operand) (fit : k.Fit (awaited .ternary) lhs s) :
    k.Upholds (binaryTail level operand rounds lhs) (binaryTail level operand' rounds lhs) s
      (k.Fit (awaited .ternary)) := by
  induction rounds generalizing s lhs with
  | nil => exact .of_pure fit
  | cons round rounds ih =>
      apply Upholds.peek
      cases s.token with
      | operator op =>
          simp only
          split
          · apply (upholds_pass lawful fit.held).bind
            intro _ t _ held
            apply ((step held).orMissing lawful _).bind
            intro rhs t _ fit
            apply (upholds_ofExcept lawful fit.held (op.concrete_apply _ _)).bind
            rintro value t _ ⟨concrete, held⟩
            exact ih _ (fit_concrete lawful held concrete)
          · exact .of_pure fit
      | _ => exact .of_pure fit

theorem upholds_binary (lawful : k.Lawful env) (nesting : k.Nesting nested nested') (level : Nat)
    (held : k.holds s) :
    k.Upholds (binary nested effects level) (binary nested' effects level) s
      (k.Fit (awaited .ternary)) := by
  induction level generalizing s with
  | zero => exact nesting.upholds effects (lawful.operand false held)
  | succ level ih =>
      apply (ih held).bind
      intro lhs t _ fit
      apply Upholds.get
      exact upholds_binaryTail lawful _ ih _ lhs fit

theorem upholds_connectiveTail (lawful : k.Lawful env) (c : Connective)
    {operand operand' : Bool → Eval σ Operand}
    (step : ∀ {s} effects, k.holds s →
      k.Upholds (operand effects) (operand' effects) s (k.Fit (awaited .ternary)))
    (rounds : List Token) (lhs : Operand) (fit : k.Fit (awaited .ternary) lhs s) :
    k.Upholds (connectiveTail c operand effects rounds lhs)
      (connectiveTail c operand' effects rounds lhs) s (k.Fit (awaited .ternary)) := by
  induction rounds generalizing s lhs with
  | nil => exact .of_pure fit
  | cons round rounds ih =>
      apply Upholds.peek
      cases c.isToken s.token with
      | true =>
          apply (upholds_pass lawful fit.held).bind
          intro _ t _ held
          apply ((step _ held).orMissing lawful _).bind
          intro rhs t _ fit
          -- two truth values give a truth value, and everything else fails
          cases lhs.value with
          | bool a =>
              cases rhs.value with
              | bool b => exact ih _ (fit_concrete lawful fit.held rfl)
              | _ => exact upholds_throw lawful fit.held EvalError.noConfusion
          | _ => exact upholds_throw lawful fit.held EvalError.noConfusion
      | false => exact .of_pure fit

theorem upholds_conjunction (lawful : k.Lawful env) (nesting : k.Nesting nested nested')
    (held : k.holds s) :
    k.Upholds (conjunction nested effects) (conjunction nested' effects) s
      (k.Fit (awaited .ternary)) := by
  apply (upholds_binary lawful nesting _ held).bind
  intro lhs t _ fit
  apply Upholds.get
  exact upholds_connectiveTail lawful _ (fun _ held => upholds_binary lawful nesting _ held) _ lhs fit

theorem upholds_disjunction (lawful : k.Lawful env) (nesting : k.Nesting nested nested')
    (held : k.holds s) :
    k.Upholds (disjunction nested effects) (disjunction nested' effects) s
      (k.Fit (awaited .ternary)) := by
  apply (upholds_conjunction lawful nesting held).bind
  intro lhs t _ fit
  apply Upholds.get
  exact upholds_connectiveTail lawful _ (fun _ held => upholds_conjunction lawful nesting held) _ lhs
    fit

/-! ### Conditional and assignment -/

theorem upholds_conditional (lawful : k.Lawful env) (nesting : k.Nesting nested nested')
    {origin : Session σ} (began : k.holds origin) (taken : s.left < origin.left)
    (condition : Operand) (fit : k.Fit (awaited .ternary) condition s) :
    k.Upholds (conditional nested effects condition) (conditional nested' effects condition) s
      (k.Fit (awaited .ternary)) := by
  apply Upholds.peek
  cases viewed : s.token with
  | question =>
      have more : s.token ≠ .finish := by simp [viewed]
      cases condition.value with
      | bool truth =>
          apply (upholds_pass lawful fit.held).bind
          intro _ t passed held
          have shorter := left_pass_lt more passed
          cases truth with
          | true =>
              have enters := lawful.branch .comma began held (by omega)
              apply ((nesting.upholds effects enters).orMissing lawful _).bind
              intro result t _ fit
              have sound := fit.sound rfl
              apply (upholds_expect lawful fit.held _ _).bind
              intro _ t _ held
              apply ((upholds_skip lawful held _).orMissing lawful _).bind
              intro _ t _ held
              exact .of_pure (fit_value held sound)
          | false =>
              apply ((upholds_skip lawful held _).orMissing lawful _).bind
              intro _ u skipped held
              -- what was passed over since the conditional began leaves room for the second branch
              have kept := Consumes.left_le
                (frame_left.closed.keeps_orMissing _ (frame_left.skipping _)) skipped
              apply (upholds_expect lawful held _ _).bind
              intro _ v expected held
              have kept' := Consumes.left_le (frame_left.closed.keeps_expect _ _) expected
              have enters := lawful.branch .ternary began held (by omega)
              apply ((nesting.upholds effects enters).orMissing lawful _).bind
              intro result t _ fit
              exact .of_pure fit.forget
      | _ => exact upholds_throw lawful fit.held EvalError.noConfusion
  | _ => exact .of_pure fit

theorem upholds_ternary (lawful : k.Lawful env) (nesting : k.Nesting nested nested')
    (held : k.holds s) :
    k.Upholds (ternary nested effects) (ternary nested' effects) s (k.Fit (awaited .ternary)) := by
  apply (upholds_disjunction lawful nesting held).bind
  intro condition t ran fit
  have taken := strict_disjunction nesting.taking s condition t ran
  exact upholds_conditional lawful nesting held taken condition fit

theorem upholds_assignTo (lawful : k.Lawful env) (nesting : k.Nesting nested nested')
    {origin : Session σ} (began : k.holds origin) (taken : s.left < origin.left) (lhs : Operand)
    (fit : k.Fit (awaited .ternary) lhs s) :
    k.Upholds (assignTo nested effects lhs) (assignTo nested' effects lhs) s
      (k.Fit (awaited .assign)) := by
  apply Upholds.peek
  cases viewed : s.token with
  | assign op =>
      cases target : lhs.target with
      | none => exact upholds_throw lawful fit.held EvalError.noConfusion
      | some name =>
          have writable := fit.target target
          apply (upholds_pass lawful fit.held).bind
          intro _ t passed held
          have shorter := left_pass_lt (by simp [viewed]) passed
          have enters := lawful.branch .assign began held (by omega)
          apply ((nesting.upholds effects enters).orMissing lawful _).bind
          intro rhs t _ fit
          have sound := fit.sound rfl
          apply (upholds_ofExcept lawful fit.held (proper_assignedValue op _ _)).bind
          rintro value t _ ⟨computed, held⟩
          -- a plain assignment stores the value itself, a compound one what an operator gives
          have stored : k.sound value := by
            rcases computed with rfl | concrete
            · exact sound
            · exact lawful.concrete concrete
          split
          · apply (upholds_note lawful held _).bind
            intro _ t _ held
            apply (upholds_store lawful held _ writable stored).bind
            intro _ t _ held
            exact .of_pure (fit_value held stored)
          · apply (upholds_store lawful held _ writable stored).bind
            intro _ t _ held
            exact .of_pure (fit_value held stored)
  | _ =>
      apply Upholds.of_pure (fit.narrow ?_)
      rw [viewed]
      exact Bool.noConfusion

theorem upholds_assign (lawful : k.Lawful env) (nesting : k.Nesting nested nested')
    (held : k.holds s) :
    k.Upholds (assign nested effects) (assign nested' effects) s (k.Fit (awaited .assign)) := by
  apply (upholds_ternary lawful nesting held).bind
  intro lhs t ran fit
  have taken := strict_ternary nesting.taking s lhs t ran
  exact upholds_assignTo lawful nesting held taken lhs fit

/-! ### Commas -/

theorem upholds_commaTail (lawful : k.Lawful env) {expression expression' : Eval σ Operand}
    (step : ∀ {s}, k.holds s → k.Upholds expression expression' s (k.Fit (awaited .comma)))
    (rounds : List Token) (last : Operand) (fit : k.Fit (awaited .comma) last s) :
    k.Upholds (commaTail expression rounds last) (commaTail expression' rounds last) s
      (k.Fit (awaited .comma)) := by
  induction rounds generalizing s last with
  | nil => exact .of_pure fit
  | cons round rounds ih =>
      apply Upholds.peek
      cases s.token with
      | comma =>
          apply (upholds_pass lawful fit.held).bind
          intro _ t _ held
          apply ((step held).orMissing lawful _).bind
          intro next t _ fit
          exact ih next fit
      | _ => exact .of_pure fit

theorem upholds_comma (lawful : k.Lawful env) (nesting : k.Nesting nested nested')
    (held : k.holds s) :
    k.Upholds (comma nested effects) (comma nested' effects) s (k.Fit (awaited .comma)) := by
  apply (upholds_assign lawful nesting held).bind
  intro first t _ fit
  apply Upholds.get
  exact upholds_commaTail lawful (fun held => upholds_assign lawful nesting held) _ first fit

end TemplateCalc.Session.Contract
