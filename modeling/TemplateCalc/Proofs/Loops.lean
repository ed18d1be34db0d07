import TemplateCalc.Proofs.Progress

/-!
How the loops run.

Every loop of the levels looks at the token in view, stops there or goes once more round. It stops at
the same tokens whatever the number of rounds it was given; where it goes on it makes use of one.
-/

set_option autoImplicit false

namespace TemplateCalc.Session

variable {σ : Type} {s : Session σ}

/-- A loop that still has tokens to look at still has a round. -/
theorem rounds_of_left {rounds : List Token} (enough : s.left ≤ rounds.length)
    (more : s.token ≠ .finish) : ∃ round rest, rounds = round :: rest := by
  cases rounds with
  | nil =>
      have some := left_pos more
      simp only [List.length_nil] at enough
      omega
  | cons round rest => exact ⟨round, rest, rfl⟩

/-! ### Turns -/

def turn (missing : MissingOperand) (operand : Eval σ Operand)
    (apply : Value → Except EvalError Value) : Eval σ Operand := do
  discard advance
  let rhs ← orMissing missing operand
  let value ← ofExcept (apply rhs.value)
  return { value }

theorem turn_bind (missing : MissingOperand) (operand : Eval σ Operand)
    (apply : Value → Except EvalError Value) (next : Operand → Eval σ Operand) (s : Session σ) :
    (turn missing operand apply >>= next) s =
      (do
        discard advance
        let rhs ← orMissing missing operand
        let value ← ofExcept (apply rhs.value)
        next { value } : Eval σ Operand) s := by
  simp only [turn, run_bind]
  rcases (discard advance : Eval σ Unit) s with ⟨_ | _, t⟩
  · rfl
  · simp only
    rcases orMissing missing operand t with ⟨_ | rhs, u⟩
    · rfl
    · simp only
      rcases ofExcept (apply rhs.value) u with ⟨_ | _, _⟩ <;> rfl

/-- A turn takes the operator at least. -/
theorem left_turn_lt {missing : MissingOperand} {operand : Eval σ Operand}
    {apply : Value → Except EvalError Value} (consumes : Consumes operand)
    (more : s.token ≠ .finish) {a : Operand} {t : Session σ}
    (ran : turn missing operand apply s = (.ok a, t)) : t.left < s.left := by
  refine strictAt_pass more ?_ s a t rfl ran
  apply frame_left.keeps_bind (frame_left.closed.keeps_orMissing _ consumes)
  intro rhs
  exact frame_left.keeps_bind (frame_left.closed.keeps_ofExcept _)
    fun _ => frame_left.closed.keeps_pure _

/-! ### Binary operators -/

section Binary

variable {level : Nat} {operand : Eval σ Operand}

theorem binaryTail_stop (stop : ∀ op, s.token = .operator op → op.level ≠ level)
    (rounds : List Token) (lhs : Operand) :
    binaryTail level operand rounds lhs s = (.ok lhs, s) := by
  cases rounds with
  | nil => rfl
  | cons round rounds =>
      unfold binaryTail
      rw [run_bind_ok (run_peek s)]
      cases viewed : s.token with
      | operator op =>
          simp only [if_neg (stop op viewed)]
          rfl
      | _ => rfl

theorem binaryTail_step {op : BinaryOp} (viewed : s.token = .operator op) (fits : op.level = level)
    (round : Token) (rounds : List Token) (lhs : Operand) :
    binaryTail level operand (round :: rounds) lhs s =
      (turn (.second op) operand (op.apply lhs.value) >>= binaryTail level operand rounds) s := by
  rw [turn_bind, binaryTail, run_bind_ok (run_peek s), viewed]
  simp only [if_pos fits]

end Binary

/-! ### Connectives -/

section Connective

variable {c : Connective} {operand : Bool → Eval σ Operand} {effects : Bool}

theorem connectiveTail_stop (stop : c.isToken s.token = false) (rounds : List Token)
    (lhs : Operand) : connectiveTail c operand effects rounds lhs s = (.ok lhs, s) := by
  cases rounds with
  | nil => rfl
  | cons round rounds =>
      rw [connectiveTail, run_bind_ok (run_peek s), stop]
      rfl

def Connective.join (c : Connective) : Value → Value → Except EvalError Value
  | .bool a, .bool b => .ok (.bool (c.apply a b))
  | _, _ => .error (.type c.fault)

theorem connectiveTail_step (viewed : c.isToken s.token = true) (round : Token)
    (rounds : List Token) (lhs : Operand) :
    connectiveTail c operand effects (round :: rounds) lhs s =
      (turn c.missing (operand (effects && !c.isDecided lhs.value)) (c.join lhs.value) >>=
        connectiveTail c operand effects rounds) s := by
  rw [turn_bind, connectiveTail, run_bind_ok (run_peek s), viewed]
  simp only [if_true]
  rw [run_bind, run_bind]
  split
  · rw [run_bind, run_bind]
    split
    · rename_i rhs t _
      cases lhs.value <;> cases rhs.value <;> rfl
    · rfl
  · rfl

end Connective

/-! ### Commas -/

section Comma

variable {expression : Eval σ Operand}

theorem commaTail_stop (stop : s.token ≠ .comma) (rounds : List Token) (last : Operand) :
    commaTail expression rounds last s = (.ok last, s) := by
  cases rounds with
  | nil => rfl
  | cons round rounds =>
      unfold commaTail
      rw [run_bind_ok (run_peek s)]
      cases viewed : s.token with
      | comma => exact absurd viewed stop
      | _ => rfl

def nextExpression (expression : Eval σ Operand) : Eval σ Operand := do
  discard advance
  orMissing .afterComma expression

theorem left_nextExpression_lt (consumes : Consumes expression) (more : s.token ≠ .finish)
    {a : Operand} {t : Session σ} (ran : nextExpression expression s = (.ok a, t)) :
    t.left < s.left :=
  strictAt_pass more (frame_left.closed.keeps_orMissing _ consumes) s a t rfl ran

theorem commaTail_step (viewed : s.token = .comma) (round : Token) (rounds : List Token)
    (last : Operand) :
    commaTail expression (round :: rounds) last s =
      (nextExpression expression >>= commaTail expression rounds) s := by
  rw [commaTail, run_bind_ok (run_peek s), viewed]
  simp only [nextExpression, run_bind]
  rcases (discard advance : Eval σ Unit) s with ⟨_ | _, t⟩ <;> rfl

end Comma

/-! ### Operators behind an operand -/

def letsThrough (stepWaits : Bool) (token : Token) : Bool :=
  stepWaits || token.isAssign || token.isStep

def isPostfix : Token → Bool
  | .openBracket | .dot | .step _ => true
  | _ => false

theorem postfixTail_stop {nested : Nested σ} {effects : Bool} (stop : isPostfix s.token = false)
    (rounds : List Token) (operand : Operand) :
    postfixTail nested effects rounds operand s = (.ok operand, s) := by
  cases rounds with
  | nil => rfl
  | cons round rounds =>
      unfold postfixTail
      rw [run_bind_ok (run_peek s)]
      cases viewed : s.token with
      | openBracket | dot | step _ =>
          rw [viewed] at stop
          cases stop
      | _ => rfl

def postfixTurn (nested : Nested σ) (effects : Bool) (operand : Operand) : Token → Eval σ Operand
  | .openBracket =>
    match operand.value with
    | .str _ => do
      let i ← index nested effects .index
      let value ← ofExcept (operand.value.charAt i)
      return { value }
    | _ => throw (.symbol .notIndexable)
  | .dot => throw (.symbol .notStruct)
  | .step step => do
    discard advance
    match operand.target, operand.value with
    | some name, .int n =>
      store effects name (.int (n + step.delta))
      return { value := .int n }
    | _, _ => throw (.type (.postStep step))
  | _ => return operand

theorem postfixTail_step {nested : Nested σ} {effects : Bool} (goes : isPostfix s.token = true)
    (round : Token) (rounds : List Token) (operand : Operand) :
    postfixTail nested effects (round :: rounds) operand s =
      (postfixTurn nested effects operand s.token >>= postfixTail nested effects rounds) s := by
  rw [postfixTail, run_bind_ok (run_peek s)]
  -- the turn is a part of the loop, so both run the same steps in another grouping
  cases viewed : s.token with
  | openBracket =>
      simp only [postfixTurn]
      cases operand.value with
      | str text =>
          simp only [run_bind]
          rcases index nested effects .index s with ⟨_ | i, t⟩
          · rfl
          · simp only
            rcases ofExcept (Value.charAt (.str text) i) t with ⟨_ | _, _⟩ <;> rfl
      | _ => rfl
  | dot => rfl
  | step step =>
      simp only [postfixTurn, run_bind]
      rcases (discard advance : Eval σ Unit) s with ⟨_ | _, t⟩
      · rfl
      · cases operand.target with
        | none => rfl
        | some name =>
            cases operand.value with
            | int n => cases effects <;> rfl
            | _ => rfl
  | _ =>
      rw [viewed] at goes
      cases goes

theorem strictAt_index {nested : Nested σ} {effects : Bool} (consuming : Consuming nested)
    (fault : TypeFault) : StrictAt .openBracket (index nested effects fault) := by
  apply strictAt_pass Token.noConfusion
  apply frame_left.keeps_bind
  · exact frame_left.closed.keeps_orMissing _ (frame_left.closed.keeps_comma consuming trivial)
  · intro operand
    split
    · exact frame_left.keeps_bind (frame_left.closed.keeps_expect _ _)
        fun _ => frame_left.closed.keeps_pure _
    · exact frame_left.closed.keeps_throw _

theorem left_postfixTurn_lt {nested : Nested σ} {effects : Bool} (consuming : Consuming nested)
    (operand : Operand) (goes : isPostfix s.token = true) {a : Operand} {t : Session σ}
    (ran : postfixTurn nested effects operand s.token s = (.ok a, t)) : t.left < s.left := by
  cases viewed : s.token with
  | openBracket =>
      rw [viewed, postfixTurn] at ran
      cases kind : operand.value with
      | str text =>
          simp only [kind] at ran
          obtain ⟨i, u, first, second⟩ := ok_of_bind ran
          have kept : u.left < s.left := strictAt_index consuming _ s i u viewed first
          have consumes : Consumes (do
              let value ← ofExcept (Value.charAt (.str text) i)
              return ({ value } : Operand) : Eval σ Operand) :=
            frame_left.keeps_bind (frame_left.closed.keeps_ofExcept _)
              fun _ => frame_left.closed.keeps_pure _
          exact Nat.lt_of_le_of_lt (consumes.left_le second) kept
      | _ =>
          simp only [kind] at ran
          cases ran
  | dot =>
      rw [viewed] at ran
      cases ran
  | step step =>
      rw [viewed] at ran
      refine strictAt_pass Token.noConfusion ?_ s a t viewed ran
      split
      · exact frame_left.keeps_bind (frame_left.closed.keeps_store trivial _ _)
          fun _ => frame_left.closed.keeps_pure _
      · exact frame_left.closed.keeps_throw _
  | _ =>
      rw [viewed] at goes
      cases goes

/-! ### Paths -/

section Path

variable {env : Surroundings σ} {nested : Nested σ} {effects : Bool} {symbol : Symbol}

def leadsOn : Value → Token → Bool
  | .struct, .dot | .array, .openBracket | .blob, .openBracket => true
  | _, _ => false

def onward (env : Surroundings σ) (nested : Nested σ) (effects : Bool) (symbol : Symbol) :
    Token → Eval σ Symbol
  | .dot => member env symbol
  | _ => element env nested effects symbol

theorem leadsOn_cases {value : Value} {token : Token} (leads : leadsOn value token = true) :
    (value = .struct ∧ token = .dot) ∨
      ((value = .array ∨ value = .blob) ∧ token = .openBracket) := by
  unfold leadsOn at leads
  split at leads
  · exact .inl ⟨rfl, rfl⟩
  · exact .inr ⟨.inl rfl, rfl⟩
  · exact .inr ⟨.inr rfl, rfl⟩
  · cases leads

theorem token_of_leadsOn {value : Value} {token : Token} (leads : leadsOn value token = true) :
    token = .dot ∨ token = .openBracket := by
  rcases leadsOn_cases leads with ⟨_, viewed⟩ | ⟨_, viewed⟩
  · exact .inl viewed
  · exact .inr viewed

theorem strictAt_member (parent : Symbol) : StrictAt .dot (member env parent) := by
  apply strictAt_pass Token.noConfusion
  apply frame_left.keeps_bind frame_left.passing
  intro token
  split
  · exact frame_left.closed.keeps_memberNamed env parent _
  · exact frame_left.closed.keeps_memberNamed env parent _
  · exact frame_left.closed.keeps_throw _

theorem strictAt_element (consuming : Consuming nested) (parent : Symbol) :
    StrictAt .openBracket (element env nested effects parent) := by
  intro s a t viewed ran
  obtain ⟨i, u, first, second⟩ := ok_of_bind ran
  have taken := strictAt_index consuming _ s i u viewed first
  refine Nat.lt_of_le_of_lt (Consumes.left_le ?_ second) taken
  split
  · exact frame_left.closed.keeps_throw _
  · apply frame_left.keeps_bind (frame_left.closed.keeps_lookup _ _ _ _)
    intro found
    split
    · exact frame_left.closed.keeps_pure _
    · exact frame_left.closed.keeps_throw _

theorem strictAt_onward (consuming : Consuming nested) {symbol : Symbol} {token : Token}
    (leads : leadsOn symbol.value token = true) :
    StrictAt token (onward env nested effects symbol token) := by
  rcases token_of_leadsOn leads with rfl | rfl
  · exact strictAt_member symbol
  · exact strictAt_element consuming symbol

theorem navigate_step (leads : leadsOn symbol.value s.token = true) (round : Token)
    (rounds : List Token) :
    navigate env nested effects (round :: rounds) symbol s =
      (onward env nested effects symbol s.token >>= navigate env nested effects rounds) s := by
  rw [navigate, run_bind_ok (run_peek s)]
  rcases leadsOn_cases leads with ⟨kind, viewed⟩ | ⟨kind | kind, viewed⟩ <;> rw [kind, viewed] <;> rfl

theorem navigate_stop (stop : leadsOn symbol.value s.token = false) (rounds : List Token) :
    navigate env nested effects rounds symbol s = scalar symbol.value s := by
  cases rounds with
  | nil => rfl
  | cons round rounds =>
      rw [navigate, run_bind_ok (run_peek s)]
      generalize s.token = token at stop ⊢
      cases kind : symbol.value with
      | struct =>
          rw [kind] at stop
          cases token with
          | dot => cases stop
          | _ => rfl
      | array | blob =>
          rw [kind] at stop
          cases token with
          | openBracket => cases stop
          | _ => rfl
      | _ => rfl

theorem pathFrom_step (leads : leadsOn symbol.value s.token = true) (round : Token)
    (rounds : List Token) :
    pathFrom env nested effects (round :: rounds) symbol s =
      (onward env nested effects symbol s.token >>= pathFrom env nested effects rounds) s := by
  rw [pathFrom, run_bind_ok (run_peek s)]
  rcases leadsOn_cases leads with ⟨kind, viewed⟩ | ⟨kind | kind, viewed⟩ <;> rw [kind, viewed] <;> rfl

theorem pathFrom_stop (stop : leadsOn symbol.value s.token = false) (rounds : List Token) :
    pathFrom env nested effects rounds symbol s = pathEnd symbol s := by
  cases rounds with
  | nil => rfl
  | cons round rounds =>
      rw [pathFrom, run_bind_ok (run_peek s)]
      cases viewed : s.token with
      | dot =>
          rw [viewed] at stop
          cases kind : symbol.value with
          | struct =>
              rw [kind] at stop
              cases stop
          | _ => rfl
      | openBracket =>
          rw [viewed] at stop
          cases kind : symbol.value with
          | array | blob =>
              rw [kind] at stop
              cases stop
          | _ => rfl
      | _ => rfl

end Path

end TemplateCalc.Session
