import TemplateCalc.Proofs.Tree.Climb

/-!
Variables in expressions.

Without symbols of the host a name is a variable or nothing. A name without a value is let through
where something is about to happen to it: in front of an assignment or a step, and behind a step.
-/

set_option autoImplicit false

namespace TemplateCalc.Meaning

def keep (effects : Bool) (name : String) (value : Value) : Meaning Unit :=
  modify fun vars => if effects then vars.set name value else vars

def stepBehind (effects : Bool) (step : Step) (name : String) : Value → Meaning Value
  | .int n => do
    keep effects name (.int (n + step.delta))
    return .int n
  | _ => throw (.type (.postStep step))

end TemplateCalc.Meaning

namespace TemplateCalc.Session

variable {σ : Type} {env : Surroundings σ} {nested : Nested σ} {stepWaits effects : Bool}
  {s : Session σ} {more : List Token}

theorem run_store (effects : Bool) (name : String) (value : Value) (s : Session σ) :
    store effects name value s =
      (.ok (), { s with vars := if effects then s.vars.set name value else s.vars }) := by
  cases effects <;> rfl

theorem run_lookup {name : String} (unresolved : env.host.resolve name none 0 = none)
    (s : Session σ) :
    ∃ journal, lookup env name none 0 s = (.ok none, { s with journal := journal }) := by
  refine ⟨s.journal.push (.lookedUp name 0 none), ?_⟩
  unfold lookup
  rw [unresolved]
  rfl

theorem unresolved_of_none (noSymbols : env.host = Host.none) (name : String) :
    env.host.resolve name none 0 = none := by
  rw [noSymbols]
  rfl

theorem wordOperand_variable (x : Variable) :
    wordOperand env nested stepWaits effects x.name =
      named env nested stepWaits effects x.name := by
  have noKeyword := x.noKeyword
  simp only [isKeyword, Bool.or_eq_false_iff] at noKeyword
  obtain ⟨⟨⟨noConstant, noInquiry⟩, notReserved⟩, noFunction⟩ := noKeyword
  have other {word : String} (constant : constantWords.contains word = true) :
      Text.lowercase x.name ≠ word := by
    rintro same
    rw [same, constant] at noConstant
    cases noConstant
  unfold wordOperand
  simp only
  rw [if_neg (other (by decide)), if_neg (other (by decide)), if_neg (other (by decide)),
    if_neg (by rw [notReserved]; exact Bool.false_ne_true)]
  rw [Option.isSome_eq_false_iff, Option.isNone_iff_eq_none] at noInquiry noFunction
  rw [noInquiry, noFunction]

theorem named_bound {name : String} {value : Value} (bound : s.vars.get? name = some value) :
    named env nested stepWaits effects name s = (.ok { value, target := some name }, s) := by
  have found : (varValue? name : Eval σ (Option Value)) s = (.ok (some value), s) := by
    rw [← bound]
    rfl
  rw [named, run_bind_ok found]
  rfl

theorem named_unbound {name : String} (unresolved : env.host.resolve name none 0 = none)
    (unbound : s.vars.get? name = none) (noIndex : s.token ≠ .openBracket) :
    ∃ journal, named env nested stepWaits effects name s =
      (if letsThrough stepWaits s.token then .ok { value := .none, target := some name }
        else .error (.symbol (.unknown name)), { s with journal := journal }) := by
  obtain ⟨journal, asked⟩ := run_lookup unresolved s
  refine ⟨journal, ?_⟩
  have found : (varValue? name : Eval σ (Option Value)) s = (.ok none, s) := by
    rw [← unbound]
    rfl
  have found' : (varValue? name : Eval σ (Option Value)) { s with journal := journal } =
      (.ok none, { s with journal := journal }) := by
    rw [← unbound]
    rfl
  have plain : indexedName nested effects name { s with journal := journal } =
      (.ok name, { s with journal := journal }) := by
    rw [indexedName, run_bind_ok (run_peek _)]
    cases viewed : s.token with
    | openBracket => exact absurd viewed noIndex
    | _ => rfl
  rw [named, run_bind_ok found]
  simp only
  rw [run_bind_ok asked]
  simp only
  rw [run_bind_ok plain, run_bind_ok found']
  simp only
  rw [run_bind_ok (run_peek _), ← letsThrough]
  cases letsThrough stepWaits s.token <;> rfl

section Primary

variable {x : Variable}

theorem primary_variable (met : At (.word x.name :: more) s) :
    ∃ t, primary env nested stepWaits effects s = named env nested stepWaits effects x.name t ∧
      At more t ∧ t.vars = s.vars := by
  obtain ⟨t, passed, behind, sameVars⟩ := met.advance
  have viewed : s.token = .word x.name := met.token
  refine ⟨t, ?_, behind, sameVars⟩
  rw [primary, run_bind_ok (run_peek s), viewed]
  simp only
  rw [run_bind_ok (run_pass_ok passed), wordOperand_variable]

/-- A variable in view that is about to be changed, or that has a value. -/
theorem primary_target (noSymbols : env.host = Host.none) (met : At (.word x.name :: more) s)
    (noIndex : more.headD .finish ≠ .openBracket)
    (through : s.vars.get? x.name = none → letsThrough stepWaits (more.headD .finish) = true) :
    ∃ t, primary env nested stepWaits effects s =
        (.ok { value := (s.vars.get? x.name).getD .none, target := some x.name }, t) ∧
      At more t ∧ t.vars = s.vars := by
  obtain ⟨t, isNamed, behind, sameVars⟩ := @primary_variable _ env nested stepWaits effects _ _ _ met
  rw [isNamed]
  rw [← behind.token] at noIndex through
  rw [← sameVars] at through ⊢
  cases bound : t.vars.get? x.name with
  | some value => exact ⟨t, named_bound bound, behind, rfl⟩
  | none =>
      obtain ⟨journal, ran⟩ :=
        @named_unbound _ _ nested stepWaits effects _ _ (unresolved_of_none noSymbols _) bound noIndex
      rw [if_pos (through bound)] at ran
      exact ⟨{ t with journal := journal }, ran, ⟨behind.token, behind.rest, behind.readable⟩, rfl⟩

/-- A name without a value in a place where nothing happens to it. -/
theorem primary_unknown (noSymbols : env.host = Host.none) (met : At (.word x.name :: more) s)
    (noIndex : more.headD .finish ≠ .openBracket) (unbound : s.vars.get? x.name = none)
    (stays : letsThrough stepWaits (more.headD .finish) = false) :
    ∃ t, primary env nested stepWaits effects s = (.error (.symbol (.unknown x.name)), t) ∧
      t.vars = s.vars := by
  obtain ⟨t, isNamed, behind, sameVars⟩ := @primary_variable _ env nested stepWaits effects _ _ _ met
  rw [← behind.token] at noIndex stays
  rw [← sameVars] at unbound ⊢
  obtain ⟨journal, ran⟩ :=
    @named_unbound _ _ nested stepWaits effects _ _ (unresolved_of_none noSymbols _) unbound noIndex
  rw [stays] at ran
  exact ⟨{ t with journal := journal }, isNamed.trans ran, rfl⟩

end Primary

/-! ### Variables as operands -/

theorem ne_openBracket (ends : Ends 1 more) : more.headD .finish ≠ .openBracket := by
  intro viewed
  have stop := not_isPostfix ends
  rw [viewed] at stop
  cases stop

theorem not_letsThrough (ends : Ends 1 more) : letsThrough false (more.headD .finish) = false := by
  cases viewed : more.headD .finish with
  | step =>
      obtain ⟨least, _⟩ := ends 0 (by rw [viewed]; rfl)
      omega
  | assign op =>
      obtain ⟨_, noAssign⟩ := ends assignLevel (by rw [viewed]; rfl)
      exact absurd rfl noAssign
  | _ => rfl

theorem evaluates_var (noSymbols : env.host = Host.none) (x : Variable) :
    Evaluates env 1 [.word x.name] fun _ => Meaning.read x := by
  apply evaluates_of_prefixed (List.cons_ne_nil _ _)
  intro room effects s more enough met ends
  have viewed : s.token = .word x.name := met.token
  rw [prefixed_of_primary (by rw [viewed]; rfl)]
  refine Gives.postfixed ?_ ends
  have noIndex := ne_openBracket ends
  cases bound : s.vars.get? x.name with
  | some value =>
      obtain ⟨t, ran, behind, sameVars⟩ :=
        primary_target noSymbols met noIndex fun unbound => by rw [bound] at unbound; cases unbound
      refine .inl ⟨_, t, ?_, ran, behind⟩
      rw [Meaning.read, run_bind_ok (run_get _), bound, sameVars]
      rfl
  | none =>
      obtain ⟨t, ran, sameVars⟩ :=
        primary_unknown noSymbols met noIndex bound (not_letsThrough ends)
      refine .inr ⟨_, t, ?_, ran, EvalError.noConfusion⟩
      rw [Meaning.read, run_bind_ok (run_get _), bound, sameVars]
      rfl

/-! ### Steps -/

theorem run_readInt (x : Variable) (fault : TypeFault) (vars : Store) :
    Meaning.readInt x fault vars =
      (match (vars.get? x.name).getD .none with
        | .int n => .ok n
        | _ => .error (.type fault), vars) := by
  rw [Meaning.readInt, run_bind_ok (run_get _)]
  cases vars.get? x.name with
  | none => rfl
  | some value => cases value <;> rfl

theorem run_write (effects : Bool) (x : Variable) (value : Value) (vars : Store) :
    Meaning.write effects x value vars =
      (.ok (), if effects then vars.set x.name value else vars) := rfl

theorem run_postStep_int {step : Step} {token : Token} {name : String} {n : Int64} {t : Session σ}
    (passed : advance s = (.ok token, t)) :
    postfixTurn nested effects { value := .int n, target := some name } (.step step) s =
      (.ok { value := .int n },
        { t with vars := if effects then t.vars.set name (.int (n + step.delta)) else t.vars }) := by
  rw [postfixTurn, run_bind_ok (run_pass_ok passed)]
  simp only
  rw [run_bind_ok (run_store effects name _ t)]
  rfl

theorem run_applyPreStep_int {step : Step} {name : String} {n : Int64} :
    applyPreStep effects step { value := .int n, target := some name } s =
      (.ok { value := .int (n + step.delta) },
        { s with vars := if effects then s.vars.set name (.int (n + step.delta)) else s.vars }) := by
  unfold applyPreStep
  simp only
  rw [run_bind_ok (run_store effects name _ s)]
  rfl

theorem gives_postStep {t : Session σ} {name : String} {old : Value} {step : Step}
    (ran : primary env nested stepWaits effects s = (.ok { value := old, target := some name }, t))
    (behind : At (.step step :: more) t) (ends : Ends 1 more) :
    Gives more (Meaning.stepBehind effects step name old t.vars)
      (postfixed env nested stepWaits effects s) := by
  have viewed : t.token = .step step := behind.token
  obtain ⟨u, passed, after, sameVars⟩ := behind.advance
  rw [postfixed, run_bind_ok ran, run_bind_ok (run_get t), ahead,
    postfixTail_step (by rw [viewed]; rfl), viewed, ← sameVars]
  cases old with
  | int n =>
      let changed : Session σ :=
        { u with vars := if effects then u.vars.set name (.int (n + step.delta)) else u.vars }
      refine .inl ⟨{ value := .int n }, changed, rfl, ?_, after.token, after.rest, after.readable⟩
      rw [run_bind_ok (run_postStep_int passed)]
      exact postfixTail_stop (by rw [after.token]; exact not_isPostfix ends) _ _
  | _ =>
      refine .inr ⟨.type (.postStep step), u, rfl, ?_, EvalError.noConfusion⟩
      apply run_bind_error
      rw [postfixTurn, run_bind_ok (run_pass_ok passed)]
      rfl

theorem evaluates_thenStepped (noSymbols : env.host = Host.none) (x : Variable) (step : Step) :
    Evaluates env 1 [.word x.name, .step step] (Expr.thenStepped x step).meaning := by
  apply evaluates_of_prefixed (List.cons_ne_nil _ _)
  intro room effects s more enough met ends
  have viewed : s.token = .word x.name := met.token
  rw [prefixed_of_primary (by rw [viewed]; rfl)]
  obtain ⟨t, ran, behind, sameVars⟩ : ∃ t, primary env (nest env room) false effects s =
        (.ok { value := (s.vars.get? x.name).getD .none, target := some x.name }, t) ∧
      At (.step step :: more) t ∧ t.vars = s.vars :=
    primary_target noSymbols met Token.noConfusion fun _ => rfl
  have gives := gives_postStep ran behind ends
  have meant := run_readInt x (.postStep step) s.vars
  rw [sameVars] at gives
  cases held : (s.vars.get? x.name).getD .none with
  | int n =>
      rw [held] at meant gives
      rw [Expr.meaning, run_bind_ok meant, run_bind_ok (run_write effects x _ s.vars)]
      exact gives
  | _ =>
      rw [held] at meant gives
      rw [Expr.meaning, run_bind_error meant]
      exact gives

theorem run_isUnbound (noSymbols : env.host = Host.none) (x : Variable) (s : Session σ) :
    ∃ journal, isUnbound env x.name s =
      (.ok (s.vars.get? x.name).isNone, { s with journal := journal }) := by
  have found : (varValue? x.name : Eval σ (Option Value)) s = (.ok (s.vars.get? x.name), s) := rfl
  unfold isUnbound
  rw [x.noKeyword, if_neg Bool.false_ne_true, run_bind_ok found]
  cases s.vars.get? x.name with
  | some value => exact ⟨s.journal, rfl⟩
  | none =>
      obtain ⟨journal, asked⟩ := run_lookup (unresolved_of_none noSymbols x.name) s
      refine ⟨journal, ?_⟩
      simp only
      rw [run_bind_ok asked]
      rfl

/-- A variable that is about to be changed, one level deeper. -/
theorem nest_target (noSymbols : env.host = Host.none) {x : Variable} {room : Nat}
    (met : At (.word x.name :: more) s) (stop : isPostfix (more.headD .finish) = false)
    (through : s.vars.get? x.name = none → letsThrough stepWaits (more.headD .finish) = true) :
    ∃ t, nest env (room + 1) (.prefixed stepWaits) effects s =
        (.ok { value := (s.vars.get? x.name).getD .none, target := some x.name }, t) ∧
      At more t ∧ t.vars = s.vars := by
  let deep : Session σ := { s with depth := s.depth + 1 }
  have viewed : deep.token = .word x.name := met.token
  have noIndex : more.headD .finish ≠ .openBracket := by
    intro isIndex
    rw [isIndex] at stop
    cases stop
  obtain ⟨t, ran, behind, sameVars⟩ : ∃ t, primary env (nest env room) stepWaits effects deep =
        (.ok { value := (s.vars.get? x.name).getD .none, target := some x.name }, t) ∧
      At more t ∧ t.vars = s.vars :=
    primary_target noSymbols ⟨met.token, met.rest, met.readable⟩ noIndex through
  have done : isPostfix t.token = false := by
    rw [behind.token]
    exact stop
  exact ⟨{ t with depth := t.depth - 1 }, nest_of_primary (by rw [met.token]; rfl) ran done,
    ⟨behind.token, behind.rest, behind.readable⟩, sameVars⟩

theorem evaluates_stepped (noSymbols : env.host = Host.none) (step : Step) (x : Variable) :
    Evaluates env 1 [.step step, .word x.name] (Expr.stepped step x).meaning := by
  apply evaluates_of_prefixed (List.cons_ne_nil _ _)
  intro room effects s more enough met ends
  obtain ⟨room, rfl⟩ : ∃ below, room = below + 1 := by
    simp only [List.length_cons, List.length_nil] at enough
    exact ⟨room - 1, by omega⟩
  have viewed : s.token = .step step := met.token
  obtain ⟨t, passed, named, sameVars⟩ := met.advance
  have nameView : t.token = .word x.name := named.token
  -- the step looks ahead whether the name has a value before it evaluates the name
  obtain ⟨journal, probed⟩ := run_isUnbound noSymbols x t
  have waits : stepWaitsFor env (.word x.name) t =
      (.ok (t.vars.get? x.name).isNone, { t with journal := journal }) := probed
  obtain ⟨u, ran, behind, sameVars'⟩ : ∃ u,
      nest env (room + 1) (.prefixed (t.vars.get? x.name).isNone) effects
          { t with journal := journal } =
        (.ok { value := (t.vars.get? x.name).getD .none, target := some x.name }, u) ∧
      At more u ∧ u.vars = t.vars :=
    nest_target noSymbols ⟨named.token, named.rest, named.readable⟩ (not_isPostfix ends)
      (by
        intro unbound
        simp only at unbound
        rw [unbound]
        rfl)
  rw [prefixed, run_bind_ok (run_peek s), viewed]
  simp only
  rw [preStep, run_bind_ok (run_pass_ok passed), run_bind_ok (run_peek t), nameView,
    run_bind_ok waits, run_bind_ok (by rw [run_tryCatch, ran])]
  rw [← sameVars, ← sameVars']
  have meant := run_readInt x (.preStep step) u.vars
  cases held : (u.vars.get? x.name).getD .none with
  | int n =>
      let changed : Session σ :=
        { u with vars := if effects then u.vars.set x.name (.int (n + step.delta)) else u.vars }
      rw [held] at meant
      refine .inl ⟨{ value := .int (n + step.delta) }, changed, ?_, run_applyPreStep_int,
        behind.token, behind.rest, behind.readable⟩
      rw [Expr.meaning, run_bind_ok meant, run_bind_ok (run_write effects x _ u.vars)]
      rfl
  | _ =>
      rw [held] at meant
      exact .inr ⟨.type (.preStep step), u, run_bind_error meant, rfl, EvalError.noConfusion⟩

/-! ### Assignments -/

/-- An assignment behind its left side, which is kept under the given name. -/
theorem gives_assign {room : Nat} {t : Session σ} {name : String} {old : Value} {op : Option Arith}
    {tokens : List Token} {meaning : Bool → Meaning Value}
    (left : nest env (room + 1) (.prefixed false) effects s =
      (.ok { value := old, target := some name }, t))
    (behind : At (.assign op :: (tokens ++ more)) t)
    (right : Evaluates env assignLevel tokens meaning) (enough : tokens.length ≤ room)
    (ends : Ends assignLevel more) :
    Gives more
      ((do
        let new ← meaning effects
        let value ← Meaning.ofExcept (assignedValue op old new)
        Meaning.keep effects name value
        return value : Meaning Value) t.vars)
      (assign (nest env (room + 1)) effects s) := by
  have viewed : t.token = .assign op := behind.token
  obtain ⟨u, passed, inside, sameVars⟩ := behind.advance
  have alone : ternary (nest env (room + 1)) effects s =
      (.ok { value := old, target := some name }, t) := by
    rw [ternary, run_bind_ok (disjunction_single left (by rw [viewed]; rfl))]
    exact conditional_stop (by rw [viewed]; exact Token.noConfusion) _
  have inner : Gives more (meaning effects u.vars) (nest env (room + 1) .assign effects u) := by
    have stop : tokenLevel? (more.headD .finish) ≠ some assignLevel :=
      fun isAssign => (ends assignLevel isAssign).2 rfl
    have deep : At (tokens ++ more) { u with depth := u.depth + 1 } :=
      ⟨inside.token, inside.rest, inside.readable⟩
    exact (right.gives (by decide) enough deep ends stop).deeper
  rw [assign, run_bind_ok alone, assignTo, run_bind_ok (run_peek t), viewed]
  simp only
  rw [run_bind_ok (run_pass_ok passed), ← sameVars]
  refine (inner.orMissing (.assigned op)).bind fun a v after => ?_
  -- only the old value can make a compound assignment fail here
  have settled := settled_assignedValue op old a.value
  cases result : assignedValue op old a.value with
  | error e => exact .inr ⟨e, v, rfl, rfl, settled e result⟩
  | ok value =>
      let noted : Session σ :=
        { v with journal := if effects then v.journal.push (.assigned name op value) else v.journal }
      let changed : Session σ :=
        { noted with vars := if effects then v.vars.set name value else v.vars }
      refine .inl ⟨{ value }, changed, rfl, ?_, after.token, after.rest, after.readable⟩
      cases effects <;> rfl

theorem evaluates_assigned (noSymbols : env.host = Host.none) (x : Variable) (op : Option Arith)
    {tokens : List Token} {meaning : Bool → Meaning Value}
    (right : Evaluates env assignLevel tokens meaning) :
    Evaluates env assignLevel (.word x.name :: .assign op :: tokens) (fun effects => do
      let old := ((← get).get? x.name).getD .none
      let new ← meaning effects
      let value ← Meaning.ofExcept (assignedValue op old new)
      Meaning.write effects x value
      return value) := by
  intro room effects s more enough met ends
  obtain ⟨room, rfl⟩ : ∃ below, room = below + 1 := by
    simp only [List.length_cons] at enough
    exact ⟨room - 1, by omega⟩
  have fits : tokens.length ≤ room := by
    simp only [List.length_cons] at enough
    omega
  have stop : tokenLevel? (more.headD .finish) ≠ some assignLevel := by
    intro isAssign
    exact (ends assignLevel isAssign).2 rfl
  apply Gives.resumes _ (by decide) stop
  obtain ⟨t, ran, behind, sameVars⟩ : ∃ t,
      nest env (room + 1) (.prefixed false) effects s =
        (.ok { value := (s.vars.get? x.name).getD .none, target := some x.name }, t) ∧
      At (.assign op :: (tokens ++ more)) t ∧ t.vars = s.vars :=
    nest_target noSymbols met rfl fun _ => rfl
  have gives := gives_assign ran behind right fits ends
  rw [sameVars] at gives
  exact gives

end TemplateCalc.Session
