import TemplateCalc.Proofs.Single
import TemplateCalc.Proofs.Tree.Basic

/-!
Levels that follow the meaning of expressions.

A run that has the tokens of an expression in view follows its meaning if it ends with the value of
the meaning, in front of the tokens behind the expression, or with its error; the variables are those
of the meaning in either case. A level that reads a row of operands does so up to the point where it
looks for the next operator: there it may still go on.
-/

set_option autoImplicit false

namespace TemplateCalc.Session

variable {σ : Type}

/-! ### Levels by number -/

section Levels

variable {nested : Nested σ} {effects : Bool}

def climb (nested : Nested σ) (effects : Bool) (level : Nat) : Eval σ Operand :=
  if level = commaLevel then comma nested effects
  else if level = assignLevel then assign nested effects
  else if level = 11 then disjunction nested effects
  else if level = 10 then conjunction nested effects
  else binary nested effects (level - 1)

def tail (nested : Nested σ) (effects : Bool) (level : Nat) (rounds : List Token) (lhs : Operand) :
    Eval σ Operand :=
  if level = commaLevel then commaTail (assign nested effects) rounds lhs
  else if level = assignLevel then conditional nested effects lhs >>= assignTo nested effects
  else if level = 11 then connectiveTail .either (conjunction nested) effects rounds lhs
  else if level = 10 then
    connectiveTail .both (fun effects => binary nested effects binaryLevels) effects rounds lhs
  else binaryTail (level - 1) (binary nested effects (level - 2)) rounds lhs

theorem climb_binary {level : Nat} (binaryLevel : level ≤ binaryLevels) :
    climb nested effects (level + 1) = binary nested effects level := by
  unfold binaryLevels at binaryLevel
  unfold climb commaLevel assignLevel
  rw [if_neg (by omega), if_neg (by omega), if_neg (by omega), if_neg (by omega)]
  rfl

theorem tail_binary {level : Nat} (binaryLevel : level < binaryLevels) :
    tail nested effects (level + 2) =
      binaryTail (level + 1) (binary nested effects level) := by
  unfold binaryLevels at binaryLevel
  funext rounds lhs
  unfold tail commaLevel assignLevel
  rw [if_neg (by omega), if_neg (by omega), if_neg (by omega), if_neg (by omega)]
  rfl

theorem climb_succ {level : Nat} (least : 1 ≤ level) (most : level < commaLevel) (s : Session σ) :
    climb nested effects (level + 1) s =
      (do
        let lhs ← climb nested effects level
        tail nested effects (level + 1) (← get).ahead lhs : Eval σ Operand) s := by
  unfold commaLevel at most
  by_cases binaryLevel : level ≤ 8
  · obtain ⟨below, rfl⟩ : ∃ below, level = below + 1 := ⟨level - 1, by omega⟩
    rw [climb_binary binaryLevel, climb_binary (by unfold binaryLevels; omega),
      tail_binary binaryLevel]
    rfl
  · obtain rfl | rfl | rfl | rfl : level = 9 ∨ level = 10 ∨ level = 11 ∨ level = 12 := by omega
    · rfl
    · rfl
    · change (ternary nested effects >>= assignTo nested effects) s =
        (disjunction nested effects >>= fun lhs => get >>= fun _ =>
          conditional nested effects lhs >>= assignTo nested effects : Eval σ Operand) s
      rw [ternary, run_bind, run_bind, run_bind]
      rcases disjunction nested effects s with ⟨_ | condition, t⟩
      · rfl
      · simp only [run_bind_ok (run_get t), run_bind]
    · rfl

def tokenLevel? : Token → Option Nat
  | .step _ | .openBracket | .dot => some 0
  | .operator op => some (op.level + 1)
  | .both => some 10
  | .either => some 11
  | .question | .assign _ => some assignLevel
  | .comma => some commaLevel
  | _ => none

theorem tail_stop {level : Nat} (least : 1 ≤ level) {s : Session σ}
    (stop : tokenLevel? s.token ≠ some level) (rounds : List Token) (lhs : Operand) :
    tail nested effects level rounds lhs s = (.ok lhs, s) := by
  have other {token : Token} (own : tokenLevel? token = some level) : s.token ≠ token := by
    rintro rfl
    exact stop own
  -- each level has a loop of its own, which stops in front of the tokens of other levels
  unfold tail
  split
  · rename_i isComma
    subst isComma
    exact commaTail_stop (other rfl) rounds lhs
  split
  · rename_i isAssign
    subst isAssign
    rw [run_bind_ok (conditional_stop (other rfl) lhs)]
    apply assignTo_stop
    cases viewed : s.token with
    | assign op => exact absurd viewed (other rfl)
    | _ => rfl
  split
  · rename_i isEither
    subst isEither
    apply connectiveTail_stop
    cases viewed : s.token with
    | either => exact absurd viewed (other rfl)
    | _ => rfl
  split
  · rename_i isBoth
    subst isBoth
    apply connectiveTail_stop
    cases viewed : s.token with
    | both => exact absurd viewed (other rfl)
    | _ => rfl
  · apply binaryTail_stop
    intro op viewed same
    apply other _ viewed
    rw [tokenLevel?, same]
    congr 1
    omega

def jointTurn (nested : Nested σ) (effects : Bool) (j : Joint) (lhs : Value) : Eval σ Operand :=
  let operand := climb nested (effects && !j.isDecided lhs) (j.level - 1)
  match j with
  | .operator op => turn (.second op) operand (op.apply lhs)
  | .connective c => turn c.missing operand (c.join lhs)
  | .comma => nextExpression operand

theorem tail_step {s : Session σ} {j : Joint} (viewed : s.token = j.token) (round : Token)
    (rounds : List Token) (lhs : Operand) :
    tail nested effects j.level (round :: rounds) lhs s =
      (jointTurn nested effects j lhs.value >>= tail nested effects j.level rounds) s := by
  cases j with
  | operator op =>
      obtain ⟨level, isLevel, binaryLevel⟩ : ∃ level, op.level = level + 1 ∧ level < binaryLevels := by
        rcases op with op | r
        · cases op <;> exact ⟨_, rfl, by decide⟩
        · cases r <;> exact ⟨_, rfl, by decide⟩
      simp only [Joint.level, isLevel, jointTurn, Joint.isDecided, Bool.not_false, Bool.and_true,
        Nat.add_sub_cancel, tail_binary binaryLevel, climb_binary (Nat.le_of_lt binaryLevel)]
      exact binaryTail_step viewed isLevel round rounds lhs
  | connective c =>
      cases c with
      | both =>
          refine connectiveTail_step ?_ round rounds lhs
          rw [viewed]
          rfl
      | either =>
          refine connectiveTail_step ?_ round rounds lhs
          rw [viewed]
          rfl
  | comma =>
      simp only [jointTurn, Joint.isDecided, Bool.not_false, Bool.and_true]
      exact commaTail_step viewed round rounds lhs

end Levels

/-! ### Runs that follow a meaning -/

structure At (tokens : List Token) (s : Session σ) : Prop where
  token : s.token = tokens.headD .finish
  rest : s.rest = tokens.tail
  readable : s.fault = none

section Following

variable {s t : Session σ} {tokens more : List Token} {token : Token}
  {meant : Except EvalError Value × Store} {ran : Except EvalError Operand × Session σ}

theorem At.advance (met : At (token :: tokens) s) :
    ∃ t, Session.advance s = (.ok token, t) ∧ At tokens t ∧ t.vars = s.vars := by
  have viewed : s.token = token := met.token
  subst viewed
  cases tokens with
  | nil =>
      exact ⟨_, run_advance_end met.rest met.readable, ⟨rfl, rfl, met.readable⟩, rfl⟩
  | cons next rest =>
      exact ⟨_, run_advance_cons met.rest, ⟨rfl, rfl, met.readable⟩, rfl⟩

def Fails (meant : Except EvalError Value × Store) (ran : Except EvalError Operand × Session σ) :
    Prop :=
  ∃ e t, meant = (.error e, t.vars) ∧ ran = (.error e, t) ∧ e ≠ .notImplemented

def Gives (more : List Token) (meant : Except EvalError Value × Store)
    (ran : Except EvalError Operand × Session σ) : Prop :=
  (∃ a t, meant = (.ok a.value, t.vars) ∧ ran = (.ok a, t) ∧ At more t) ∨ Fails meant ran

/-- A run of a level followed a meaning up to the tokens behind the expression, and goes on there as
the level does behind its first operand. -/
def Resumes (rest : List Token → Operand → Eval σ Operand) (more : List Token)
    (meant : Except EvalError Value × Store) (ran : Except EvalError Operand × Session σ) : Prop :=
  (∃ a t rounds, meant = (.ok a.value, t.vars) ∧ ran = rest rounds a t ∧ At more t ∧
    more.length ≤ rounds.length) ∨ Fails meant ran

theorem Gives.bind {m : Eval σ Operand} {f : Operand → Eval σ Operand} {meaning : Meaning Value}
    {next : Value → Meaning Value} {behind : List Token}
    (first : Gives more (meaning s.vars) (m s))
    (second : ∀ a t, At more t → Gives behind (next a.value t.vars) (f a t)) :
    Gives behind ((meaning >>= next) s.vars) ((m >>= f) s) := by
  rcases first with ⟨a, t, meant, ran, met⟩ | ⟨e, t, meant, ran, found⟩
  · rw [run_bind_ok meant, run_bind_ok ran]
    exact second a t met
  · exact .inr ⟨e, t, run_bind_error meant, run_bind_error ran, found⟩

theorem Gives.orMissing {m : Eval σ Operand} (missing : MissingOperand)
    (gives : Gives more meant (m s)) : Gives more meant (orMissing missing m s) := by
  rcases gives with ⟨a, t, isMeant, ran, met⟩ | ⟨e, t, isMeant, ran, found⟩
  · exact .inl ⟨a, t, isMeant, run_orMissing_ok ran, met⟩
  · refine .inr ⟨e, t, isMeant, ?_, found⟩
    rw [run_orMissing_error ran, orMissing_of_ne found]

theorem Gives.deeper {m : Eval σ Operand}
    (gives : Gives more meant (m { s with depth := s.depth + 1 })) :
    Gives more meant (deeper m s) := by
  rcases gives with ⟨a, t, isMeant, ran, met⟩ | ⟨e, t, isMeant, ran, found⟩
  · exact .inl ⟨a, { t with depth := t.depth - 1 }, isMeant, run_deeper_ok ran, met.token, met.rest,
      met.readable⟩
  · exact .inr ⟨e, { t with depth := t.depth - 1 }, isMeant, run_deeper_error ran, found⟩

theorem At.gives_ofExcept (met : At more s) {result : Except EvalError Value}
    (settled : Settled result) :
    Gives more (Meaning.ofExcept result s.vars)
      ((do
        let value ← ofExcept result
        return { value } : Eval σ Operand) s) := by
  cases result with
  | ok value => exact .inl ⟨{ value }, s, rfl, rfl, met⟩
  | error e => exact .inr ⟨e, s, rfl, rfl, settled e rfl⟩

end Following

/-! ### From level to level -/

/-- What can stand behind an expression at a level: nothing with which a tighter level goes on, and
neither an assignment nor a conditional. -/
def Ends (level : Nat) (more : List Token) : Prop :=
  ∀ own, tokenLevel? (more.headD .finish) = some own → level ≤ own ∧ own ≠ assignLevel

/-- A level follows a meaning wherever it has the tokens in view, if there is room for as many
levels as there are tokens. -/
def Evaluates (env : Surroundings σ) (level : Nat) (tokens : List Token)
    (meaning : Bool → Meaning Value) : Prop :=
  ∀ room effects (s : Session σ) more, tokens.length ≤ room → At (tokens ++ more) s →
    Ends level more →
    Resumes (tail (nest env room) effects level) more (meaning effects s.vars)
      (climb (nest env room) effects level s)

section Climbing

variable {env : Surroundings σ} {level : Nat} {tokens more : List Token}
  {meaning : Bool → Meaning Value} {room : Nat} {effects : Bool} {s : Session σ}

theorem ends_nil (level : Nat) : Ends level [] := fun own isOwn => by cases isOwn

theorem Ends.of_succ (ends : Ends (level + 1) more) :
    Ends level more ∧ tokenLevel? (more.headD .finish) ≠ some level := by
  constructor
  · intro own isOwn
    obtain ⟨least, noAssign⟩ := ends own isOwn
    exact ⟨by omega, noAssign⟩
  · intro isOwn
    obtain ⟨least, _⟩ := ends level isOwn
    omega

/-- In front of a token of another level, a level ends with the value. -/
theorem Evaluates.gives (evaluates : Evaluates env level tokens meaning) (least : 1 ≤ level)
    (enough : tokens.length ≤ room) (met : At (tokens ++ more) s) (ends : Ends level more)
    (stop : tokenLevel? (more.headD .finish) ≠ some level) :
    Gives more (meaning effects s.vars) (climb (nest env room) effects level s) := by
  rcases evaluates room effects s more enough met ends with
    ⟨a, t, rounds, meant, ran, behind, _⟩ | fails
  · refine .inl ⟨a, t, meant, ?_, behind⟩
    rw [ran]
    apply tail_stop least
    rw [behind.token]
    exact stop
  · exact .inr fails

theorem length_le_ahead {t : Session σ} (met : At more t) : more.length ≤ t.ahead.length := by
  rw [ahead, List.length_cons, met.rest, List.length_tail]
  omega

theorem Evaluates.succ (evaluates : Evaluates env level tokens meaning) (least : 1 ≤ level)
    (most : level < commaLevel) : Evaluates env (level + 1) tokens meaning := by
  intro room effects s more enough met ends
  obtain ⟨tighter, stop⟩ := ends.of_succ
  rw [climb_succ least most]
  rcases evaluates.gives least enough met tighter stop with
    ⟨a, t, meant, ran, behind⟩ | ⟨e, t, meant, ran, found⟩
  · refine .inl ⟨a, t, t.ahead, meant, ?_, behind, length_le_ahead behind⟩
    rw [run_bind_ok ran, run_bind_ok (run_get t)]
  · exact .inr ⟨e, t, meant, run_bind_error ran, found⟩

theorem Evaluates.of_le (evaluates : Evaluates env level tokens meaning) (least : 1 ≤ level)
    {looser : Nat} (above : level ≤ looser) (most : looser ≤ commaLevel) :
    Evaluates env looser tokens meaning := by
  induction above with
  | refl => exact evaluates
  | step above ih => exact (ih (Nat.le_of_lt most)).succ (Nat.le_trans least above) most

/-- A level that has its value in front of a token of another level is done. -/
theorem Gives.resumes {nested : Nested σ} {meant : Except EvalError Value × Store}
    {ran : Except EvalError Operand × Session σ} (gives : Gives more meant ran) (least : 1 ≤ level)
    (stop : tokenLevel? (more.headD .finish) ≠ some level) :
    Resumes (tail nested effects level) more meant ran := by
  rcases gives with ⟨a, t, isMeant, isRun, behind⟩ | fails
  · refine .inl ⟨a, t, more, isMeant, ?_, behind, Nat.le_refl _⟩
    rw [isRun, tail_stop least]
    rw [behind.token]
    exact stop
  · exact .inr fails

/-! ### Operands -/

theorem tokenLevel?_ne_one (token : Token) : tokenLevel? token ≠ some 1 := by
  cases token with
  | operator op =>
      rcases op with op | r
      · cases op <;> exact fun same => by cases same
      · cases r <;> exact fun same => by cases same
  | _ => exact fun same => by cases same

/-- Operands with operators in front of and behind them are the tightest level. -/
theorem evaluates_of_prefixed (something : tokens ≠ [])
    (gives : ∀ room effects (s : Session σ) more, tokens.length ≤ room + 1 →
      At (tokens ++ more) s → Ends 1 more →
      Gives more (meaning effects s.vars) (prefixed env (nest env room) false effects s)) :
    Evaluates env 1 tokens meaning := by
  intro room effects s more enough met ends
  cases room with
  | zero => exact absurd (List.length_eq_zero_iff.mp (Nat.le_zero.mp enough)) something
  | succ room =>
      have deep : At (tokens ++ more) { s with depth := s.depth + 1 } :=
        ⟨met.token, met.rest, met.readable⟩
      have found := (gives room effects _ more enough deep ends).deeper
      exact found.resumes (Nat.le_refl 1) (tokenLevel?_ne_one _)

def startsPrimary : Token → Bool
  | .int _ | .str _ | .word _ | .openParen => true
  | _ => false

theorem prefixed_of_primary {nested : Nested σ} {stepWaits : Bool}
    (starts : startsPrimary s.token = true) :
    prefixed env nested stepWaits effects s = postfixed env nested stepWaits effects s := by
  rw [prefixed, run_bind_ok (run_peek s)]
  cases viewed : s.token with
  | operator | bang | tilde | step =>
      rw [viewed] at starts
      cases starts
  | _ => rfl

/-- An operand with nothing in front of it and nothing behind it, one level deeper. -/
theorem nest_of_primary {stepWaits : Bool} {a : Operand} {t : Session σ}
    (starts : startsPrimary s.token = true)
    (ran : primary env (nest env room) stepWaits effects { s with depth := s.depth + 1 } = (.ok a, t))
    (stop : isPostfix t.token = false) :
    nest env (room + 1) (.prefixed stepWaits) effects s =
      (.ok a, { t with depth := t.depth - 1 }) := by
  have operand : postfixed env (nest env room) stepWaits effects { s with depth := s.depth + 1 } =
      (.ok a, t) := by
    rw [postfixed, run_bind_ok ran, run_bind_ok (run_get t)]
    exact postfixTail_stop stop _ _
  exact run_deeper_ok ((prefixed_of_primary (s := { s with depth := s.depth + 1 }) starts).trans
    operand)

theorem not_isPostfix (ends : Ends 1 more) : isPostfix (more.headD .finish) = false := by
  cases viewed : more.headD .finish with
  | step | openBracket | dot =>
      obtain ⟨least, _⟩ := ends 0 (by rw [viewed]; rfl)
      omega
  | _ => rfl

theorem Gives.postfixed {nested : Nested σ} {stepWaits : Bool}
    {meant : Except EvalError Value × Store}
    (gives : Gives more meant (primary env nested stepWaits effects s)) (ends : Ends 1 more) :
    Gives more meant (postfixed env nested stepWaits effects s) := by
  unfold Session.postfixed
  rcases gives with ⟨a, t, isMeant, ran, behind⟩ | ⟨e, t, isMeant, ran, found⟩
  · refine .inl ⟨a, t, isMeant, ?_, behind⟩
    rw [run_bind_ok ran, run_bind_ok (run_get t)]
    apply postfixTail_stop
    rw [behind.token]
    exact not_isPostfix ends
  · exact .inr ⟨e, t, isMeant, run_bind_error ran, found⟩

theorem Evaluates.enclosed (evaluates : Evaluates env commaLevel tokens meaning) :
    Evaluates env 1 (.openParen :: (tokens ++ [.closeParen])) meaning := by
  apply evaluates_of_prefixed (List.cons_ne_nil _ _)
  intro room effects s more enough met ends
  have viewed : s.token = .openParen := met.token
  rw [prefixed_of_primary (by rw [viewed]; rfl)]
  refine Gives.postfixed ?_ ends
  rw [List.cons_append, List.append_assoc] at met
  obtain ⟨t, passed, inside, sameVars⟩ := met.advance
  have closed : Ends commaLevel ([.closeParen] ++ more) := fun own isOwn => by cases isOwn
  have room : tokens.length ≤ room := by
    simp only [List.length_cons, List.length_append] at enough
    omega
  -- inside of the parentheses the row ends in front of the closing one
  have inner : Gives ([.closeParen] ++ more) (meaning effects t.vars)
      (comma (nest env _) effects t) :=
    evaluates.gives (by decide) room inside closed fun isOwn => by cases isOwn
  rw [primary, run_bind_ok (run_peek s), viewed]
  simp only
  rw [run_bind_ok (run_pass_ok passed), ← sameVars]
  rcases inner.orMissing .afterParen with ⟨a, u, meant, ran, behind⟩ | ⟨e, u, meant, ran, found⟩
  · obtain ⟨v, closing, after, sameVars'⟩ := At.advance behind
    refine .inl ⟨{ value := a.value }, v, ?_, ?_, after⟩
    · rw [meant, sameVars']
    · have found : expect isCloseParen .parenExpected u = (.ok (), v) :=
        run_expect_ok (by rw [behind.token]; rfl) closing
      rw [run_bind_ok ran, run_bind_ok found]
      rfl
  · exact .inr ⟨e, u, meant, run_bind_error ran, found⟩

theorem Evaluates.prefixed (evaluates : Evaluates env 1 tokens meaning) (op : PrefixOp) :
    Evaluates env 1 (op.token :: tokens) (fun effects => do
      let value ← meaning effects
      Meaning.ofExcept (op.apply value)) := by
  apply evaluates_of_prefixed (List.cons_ne_nil _ _)
  intro room effects s more enough met ends
  have viewed : s.token = op.token := met.token
  obtain ⟨t, passed, inside, sameVars⟩ := met.advance
  have isPrefixOp : Session.prefixed env (nest env room) false effects s =
      prefixOp (nest env room) effects op s := by
    rw [Session.prefixed, run_bind_ok (run_peek s), viewed]
    cases op <;> rfl
  have inner : Gives more (meaning effects t.vars) (nest env room (.prefixed false) effects t) :=
    evaluates.gives (Nat.le_refl 1) (Nat.le_of_succ_le_succ enough) inside ends
      (tokenLevel?_ne_one _)
  rw [isPrefixOp, prefixOp, run_bind_ok (run_pass_ok passed), ← sameVars]
  exact (inner.orMissing (.prefixed op)).bind fun a u behind =>
    behind.gives_ofExcept (op.settled_apply a.value)

/-! ### Rows -/

section Rows

variable {j : Joint} {tokens' : List Token} {meaning' : Bool → Meaning Value}

theorem tokenLevel?_token (j : Joint) : tokenLevel? j.token = some j.level := by
  cases j with
  | connective c => cases c <;> rfl
  | _ => rfl

/-- A turn of a row follows the meaning of the operand to the right of the joint. -/
theorem gives_jointTurn (lhs : Value) (right : Evaluates env (j.level - 1) tokens' meaning')
    (enough : tokens'.length ≤ room) (met : At (j.token :: (tokens' ++ more)) s)
    (ends : Ends j.level more) :
    Gives more
      ((do
        let right ← meaning' (effects && !j.isDecided lhs)
        Meaning.ofExcept (j.apply lhs right) : Meaning Value) s.vars)
      (jointTurn (nest env room) effects j lhs s) := by
  obtain ⟨least, _⟩ := j.level_bounds
  obtain ⟨t, passed, inside, sameVars⟩ := met.advance
  obtain ⟨tighter, stop⟩ : Ends (j.level - 1) more ∧
      tokenLevel? (more.headD .finish) ≠ some (j.level - 1) := by
    apply Ends.of_succ
    rwa [Nat.sub_add_cancel (by omega)]
  have inner : Gives more (meaning' (effects && !j.isDecided lhs) t.vars)
      (climb (nest env room) (effects && !j.isDecided lhs) (j.level - 1) t) :=
    right.gives (by omega) enough inside tighter stop
  -- operators and connectives turn alike, a comma has a turn of its own
  have followed (missing : MissingOperand) {apply : Value → Except EvalError Value}
      (same : ∀ b, apply b = j.apply lhs b) : Gives more
        ((do
          let right ← meaning' (effects && !j.isDecided lhs)
          Meaning.ofExcept (j.apply lhs right) : Meaning Value) s.vars)
        (turn missing (climb (nest env room) (effects && !j.isDecided lhs) (j.level - 1)) apply s) := by
    rw [turn, run_bind_ok (run_pass_ok passed), ← sameVars]
    refine (inner.orMissing missing).bind fun a u behind => ?_
    rw [same]
    exact behind.gives_ofExcept (j.settled_apply lhs a.value)
  cases j with
  | operator op => exact followed _ fun _ => rfl
  | connective c =>
      refine followed _ fun b => ?_
      cases lhs <;> cases b <;> rfl
  | comma =>
      change Gives more _ (nextExpression _ s)
      rw [nextExpression, run_bind_ok (run_pass_ok passed), ← sameVars]
      rcases inner.orMissing .afterComma with ⟨a, u, meant, ran, behind⟩ | ⟨e, u, meant, ran, found⟩
      · exact .inl ⟨a, u, run_bind_ok meant, ran, behind⟩
      · exact .inr ⟨e, u, run_bind_error meant, ran, found⟩

/-- A row of operands that is joined from the left. -/
theorem Evaluates.joined (left : Evaluates env j.level tokens meaning)
    (right : Evaluates env (j.level - 1) tokens' meaning') :
    Evaluates env j.level (tokens ++ j.token :: tokens') (fun effects => do
      let left ← meaning effects
      let right ← meaning' (effects && !j.isDecided left)
      Meaning.ofExcept (j.apply left right)) := by
  obtain ⟨least, _⟩ := j.level_bounds
  intro room effects s more enough met ends
  rw [List.length_append, List.length_cons] at enough
  rw [List.append_assoc, List.cons_append] at met
  have joins : Ends j.level (j.token :: (tokens' ++ more)) := by
    intro own isOwn
    have same : own = j.level := Option.some.inj (isOwn.symm.trans (tokenLevel?_token j))
    have other := j.level_ne_assignLevel
    omega
  -- the left operand is itself a row of this level, whose loop goes on with the joint
  rcases left room effects s _ (by omega) met joins with
    ⟨a, t, rounds, meant, ran, behind, rounded⟩ | ⟨e, t, meant, ran, found⟩
  · cases rounds with
    | nil => cases rounded
    | cons round rounds =>
        simp only
        rw [run_bind_ok meant, ran, tail_step behind.token]
        have turned : Gives more
            ((do
              let right ← meaning' (effects && !j.isDecided a.value)
              Meaning.ofExcept (j.apply a.value right) : Meaning Value) t.vars)
            (jointTurn (nest env room) effects j a.value t) :=
          gives_jointTurn a.value right (Nat.le_trans (by omega) enough) behind ends
        rcases turned with ⟨b, u, meant', ran', after⟩ | ⟨e, u, meant', ran', found⟩
        · refine .inl ⟨b, u, rounds, meant', run_bind_ok ran', after, ?_⟩
          simp only [List.length_cons, List.length_append] at rounded
          omega
        · exact .inr ⟨e, u, meant', run_bind_error ran', found⟩
  · exact .inr ⟨e, t, run_bind_error meant, ran, found⟩

end Rows

end Climbing

end TemplateCalc.Session
