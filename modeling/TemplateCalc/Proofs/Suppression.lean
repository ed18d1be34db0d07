import TemplateCalc.Proofs.Frame

/-!
Evaluation without effects.

With the effects flag off no level changes a variable or asks a question, whatever the text and
however it ends. A connective hands the flag on switched off from the operand that decides it, so the
rest of its row is of this kind.
-/

set_option autoImplicit false

namespace TemplateCalc

namespace Session

variable {σ : Type}

def Untouched (s t : Session σ) : Prop :=
  t.vars = s.vars ∧ t.dialog = s.dialog

theorem untouched_of_tokens {s t : Session σ}
    (moved : ∃ token rest, t = { s with token := token, rest := rest }) : Untouched s t := by
  obtain ⟨token, rest, rfl⟩ := moved
  exact ⟨rfl, rfl⟩

/-- Without effects everything that an evaluation can do leaves variables and dialog alone. -/
theorem frame_untouched : Frame (@Untouched σ) (· = false) where
  refl _ := ⟨rfl, rfl⟩
  trans first second := ⟨second.1.trans first.1, second.2.trans first.2⟩
  mask other off := by rw [off, Bool.false_and]
  passing s := untouched_of_tokens (advance_state s)
  skipping branch s := untouched_of_tokens (skipOperand_state branch s)
  noting _ _ := ⟨rfl, rfl⟩
  drawing _ _ := ⟨rfl, rfl⟩
  setting impossible := by cases impossible
  asking impossible := by cases impossible
  sinking kept := kept

structure Suppressed (env : Surroundings σ) (nested : Nested σ) : Prop where
  production : ∀ p, Keeps Untouched (nested p false)
  comma : Keeps Untouched (comma nested false)
  assign : Keeps Untouched (assign nested false)
  ternary : Keeps Untouched (ternary nested false)
  disjunction : Keeps Untouched (disjunction nested false)
  conjunction : Keeps Untouched (conjunction nested false)
  binary : ∀ level, Keeps Untouched (binary nested false level)
  prefixed : ∀ stepWaits, Keeps Untouched (prefixed env nested stepWaits false)
  prefixOp : ∀ op, Keeps Untouched (prefixOp nested false op)
  preStep : ∀ step, Keeps Untouched (preStep env nested false step)
  postfixed : ∀ stepWaits, Keeps Untouched (postfixed env nested stepWaits false)
  primary : ∀ stepWaits, Keeps Untouched (primary env nested stepWaits false)
  wordOperand : ∀ stepWaits word, Keeps Untouched (wordOperand env nested stepWaits false word)
  named : ∀ stepWaits name, Keeps Untouched (named env nested stepWaits false name)
  index : ∀ fault, Keeps Untouched (index nested false fault)
  navigate : ∀ rounds symbol, Keeps Untouched (navigate env nested false rounds symbol)
  element : ∀ parent, Keeps Untouched (element env nested false parent)
  inquire : ∀ inquiry, Keeps Untouched (inquire env nested false inquiry)
  subject : ∀ name, Keeps Untouched (subject env nested false name)
  call : ∀ f, Keeps Untouched (call env nested false f)
  hosted : ∀ f args, Keeps Untouched (hosted env false f args)

theorem suppressed (env : Surroundings σ) (room : Nat) : Suppressed env (nest env room) := by
  have frame : Frame (@Untouched σ) (· = false) := frame_untouched
  have nesting := frame.nesting env room
  exact
    { production := fun p => nesting p false rfl
      comma := frame.closed.keeps_comma nesting rfl
      assign := frame.closed.keeps_assign nesting rfl
      ternary := frame.closed.keeps_ternary nesting rfl
      disjunction := frame.closed.keeps_disjunction nesting rfl
      conjunction := frame.closed.keeps_conjunction nesting rfl
      binary := frame.closed.keeps_binary nesting rfl
      prefixed := frame.closed.keeps_prefixed env (frame.hosting env) nesting rfl
      prefixOp := frame.closed.keeps_prefixOp nesting rfl
      preStep := frame.closed.keeps_preStep env nesting rfl
      postfixed := frame.closed.keeps_postfixed env (frame.hosting env) nesting rfl
      primary := frame.closed.keeps_primary env (frame.hosting env) nesting rfl
      wordOperand := frame.closed.keeps_wordOperand env (frame.hosting env) nesting rfl
      named := frame.closed.keeps_named env nesting rfl
      index := frame.closed.keeps_index nesting rfl
      navigate := frame.closed.keeps_navigate env nesting rfl
      element := frame.closed.keeps_element env nesting rfl
      inquire := frame.closed.keeps_inquire env nesting rfl
      subject := frame.closed.keeps_subject env nesting rfl
      call := frame.closed.keeps_call env (frame.hosting env) nesting rfl
      hosted := fun f args => frame.hosting env _ f args rfl }

/-! ### Connectives -/

/-- The operands of a row joined by the connective. `conjunction` is a row of the first kind and
`disjunction` one of the second. -/
def Connective.operand (nested : Nested σ) : Connective → Bool → Eval σ Operand
  | .both, effects => binary nested effects binaryLevels
  | .either, effects => conjunction nested effects

/-- What decided a connective goes on deciding it. -/
theorem Connective.isDecided_apply (c : Connective) {a : Bool} (b : Bool)
    (decided : c.isDecided (.bool a) = true) : c.isDecided (.bool (c.apply a b)) = true := by
  cases c <;> cases a <;> cases b <;> first | rfl | cases decided

/-- Behind a deciding operand the rest of the row keeps what levels without effects keep, although
the row itself may have effects. -/
theorem keeps_decided_tail {P : Session σ → Session σ → Prop} (frame : Frame P (· = false))
    (c : Connective) {operand : Bool → Eval σ Operand} (kept : Keeps P (operand false))
    (effects : Bool) (rounds : List Token) (lhs : Operand)
    (decided : c.isDecided lhs.value = true) :
    Keeps P (connectiveTail c operand effects rounds lhs) := by
  induction rounds generalizing lhs with
  | nil => exact frame.closed.keeps_pure lhs
  | cons round rounds ih =>
      unfold connectiveTail
      apply frame.keeps_bind frame.closed.keeps_peek
      intro token
      split
      · apply frame.keeps_bind frame.closed.keeps_pass
        intro _
        have switchedOff : (effects && !c.isDecided lhs.value) = false := by
          rw [decided, Bool.not_true, Bool.and_false]
        rw [switchedOff]
        apply frame.keeps_bind (frame.closed.keeps_orMissing _ kept)
        intro rhs
        split
        · rename_i a b first _
          rw [first] at decided
          exact ih _ (c.isDecided_apply b decided)
        · exact frame.closed.keeps_throw _
      · exact frame.closed.keeps_pure lhs

theorem suppressed_operand (env : Surroundings σ) (room : Nat) (c : Connective) :
    Keeps Untouched (c.operand (nest env room) false) := by
  cases c with
  | both => exact (suppressed env room).binary _
  | either => exact (suppressed env room).conjunction

end Session

/-! ### Whole evaluations -/

namespace Calculator

variable {σ : Type}

theorem session?_untouched {c : Calculator σ} {reading : Scan.Reading} {s : Session σ}
    (opened : c.session? reading = .ok s) : s.vars = c.vars ∧ s.dialog = c.dialog := by
  rcases reading with ⟨_ | ⟨token, rest⟩, _ | fault⟩ <;> cases opened <;> exact ⟨rfl, rfl⟩

theorem run_untouched (env : Surroundings σ) (options : EvalOptions) (c : Calculator σ)
    (text : String) (off : options.sideEffects = false) :
    (c.run env options text).calculator.vars = c.vars ∧
      (c.run env options text).calculator.dialog = c.dialog := by
  unfold run
  cases opened : c.session? (Scan.scan options.rules text) with
  | error fault => exact ⟨rfl, rfl⟩
  | ok s =>
      have started := session?_untouched opened
      have kept := Session.frame_untouched.keeps_whole env options.maxDepth off s
      exact ⟨kept.1.trans started.1, kept.2.trans started.2⟩

/-- An evaluation without effects, a level run without effects, and the rest of a row of `&&` or `||`
behind an operand that decides it: none of them changes a variable or the state of the dialog,
whether it ends with a value or with an error. -/
theorem suppressed_evaluation_has_no_effect (env : Surroundings σ) :
    (∀ (options : EvalOptions) (c : Calculator σ) (text : String), options.sideEffects = false →
      (c.evaluate env options text).calculator.vars = c.vars ∧
        (c.evaluate env options text).calculator.dialog = c.dialog) ∧
    (∀ room, Session.Suppressed env (Session.nest env room)) ∧
    (∀ room (c : Session.Connective) (effects : Bool) (rounds : List Token) (lhs : Operand),
      c.isDecided lhs.value = true →
        Session.Keeps Session.Untouched
          (Session.connectiveTail c (c.operand (Session.nest env room)) effects rounds lhs)) := by
  refine ⟨?_, Session.suppressed env, ?_⟩
  · intro options c text off
    have ran := run_untouched env options c text off
    unfold evaluate
    simp only
    split <;> exact ran
  · intro room c effects rounds lhs decided
    exact Session.keeps_decided_tail Session.frame_untouched c
      (Session.suppressed_operand env room c) effects rounds lhs decided

/-- An assignment of an answer, evaluated without effects: the variable keeps its value and the
answer stays in the queue. -/
theorem suppressed_assignment_of_answer :
    let c : Calculator Script :=
      { vars := ⟨[("a", .int 1)]⟩, random := Random.ofSeed 0, dialog := ⟨[.int 7], []⟩ }
    let outcome := c.evaluate ⟨Host.none, some Script.dialog, 0⟩ { sideEffects := false }
      "a = get_int(\"n\")"
    outcome.calculator.vars = ⟨[("a", .int 1)]⟩ ∧ outcome.calculator.dialog = ⟨[.int 7], []⟩ :=
  (suppressed_evaluation_has_no_effect _).1 _ _ _ rfl

end Calculator

end TemplateCalc
