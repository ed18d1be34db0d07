import TemplateCalc.Proofs.Lockstep.Basic
import TemplateCalc.Proofs.Loops

/-!
The levels from the comma down to the binary operators, run side by side.

The two runs may have different numbers of tokens ahead of them, so their loops have different
numbers of rounds. Both have enough.
-/

set_option autoImplicit false

namespace TemplateCalc.Session.Lockstep

variable {σ : Type} {k : Lockstep σ} {opened : List Bracket} {s s' : Session σ}
  {effects effects' : Bool}

/-- What the levels assume of the evaluation of nested productions in the two runs. Only behind a row
of commas the first run can be lost. -/
structure Nesting (k : Lockstep σ) (nested nested' : Nested σ) : Prop where
  taking : Taking nested
  taking' : Taking nested'
  sim : ∀ {p : Production} {opened s s' effects effects'}, p ≠ .comma → k.related opened s s' →
    k.flags effects effects' →
    k.Sim never (nested p effects) (nested' p effects') s s' (k.Fine opened)
  simComma : ∀ {opened s s' effects effects'}, k.related opened s s' → k.flags effects effects' →
    k.Sim k.lost (nested .comma effects) (nested' .comma effects') s s' (k.Fine opened)

variable {nested nested' : Nested σ}

theorem fine_value (met : k.related opened s s') (value : Value) :
    k.Fine opened { value } s s' := by
  refine ⟨?_, met⟩
  intro name impossible
  cases impossible

/-- Both runs go past a token for which they looked, and see the same one there if they are not
lost. -/
theorem Lawful.same_of_ne_finish (lawful : k.Lawful) (met : k.related opened s s')
    (more : s.token ≠ .finish) : s'.token = s.token := by
  rcases lawful.view met with same | ⟨atEnd, _⟩
  · exact same
  · exact absurd atEnd more

/-! ### Rows -/

/-- Two loops over the same row, each with rounds enough: in every turn both stop, or both go on
with a turn that takes a token. `inv` is what holds of the runs between the turns. -/
theorem sim_rounds {ι α : Type} {lost : Session σ → Prop} {loop loop' : List Token → ι → Eval σ α}
    {Post : α → Session σ → Session σ → Prop} (inv : ι → Session σ → Session σ → Prop)
    (turn : ∀ {s s'} (i : ι) (rounds rounds' : List Token), inv i s s' →
      s.left ≤ rounds.length → s'.left ≤ rounds'.length →
        k.Sim lost (loop rounds i) (loop' rounds' i) s s' Post ∨
        ∃ m m' rest rest',
          loop rounds i s = (m >>= loop rest) s ∧ loop' rounds' i s' = (m' >>= loop' rest') s' ∧
          rounds.length = rest.length + 1 ∧ rounds'.length = rest'.length + 1 ∧
          (∀ a t, m s = (.ok a, t) → t.left < s.left) ∧
          (∀ a t, m' s' = (.ok a, t) → t.left < s'.left) ∧
          k.Sim never m m' s s' inv)
    (i : ι) (rounds rounds' : List Token) (holds : inv i s s')
    (enough : s.left ≤ rounds.length) (enough' : s'.left ≤ rounds'.length) :
    k.Sim lost (loop rounds i) (loop' rounds' i) s s' Post := by
  induction measure : s.left using Nat.strongRecOn generalizing s s' i rounds rounds' with
  | ind n ih =>
      rcases turn i rounds rounds' holds enough enough' with
        stopped | ⟨m, m', rest, rest', goes, goes', size, size', takes, takes', sim⟩
      · exact stopped
      · refine Sim.of_run ?_ goes goes'
        apply sim.bind
        intro a t t' ran ran' holds
        have taken := takes a t ran
        have taken' := takes' a t' ran'
        exact ih t.left (by omega) a rest rest' holds (by omega) (by omega) rfl

theorem sim_turn (lawful : k.Lawful) (missing : MissingOperand) {operand operand' : Eval σ Operand}
    (step : ∀ {s s'}, k.related opened s s' → k.Sim never operand operand' s s' (k.Fine opened))
    (apply : Value → Except EvalError Value) (met : k.related opened s s')
    (same : s'.token = s.token) (plain : isPlain s.token = true) :
    k.Sim never (turn missing operand apply) (turn missing operand' apply) s s'
      (k.Fine opened) := by
  apply (sim_pass lawful met same plain).bind
  intro _ t t' _ _ met
  apply ((step met).orMissing lawful missing).bind
  intro rhs t t' _ _ fine
  apply (sim_ofExcept lawful fine.2 _).bind
  intro value t t' _ _ met
  exact .of_pure (fine_value met value)

theorem sim_binaryTail (lawful : k.Lawful) (level : Nat) {operand operand' : Eval σ Operand}
    (consumes : Consumes operand) (consumes' : Consumes operand')
    (step : ∀ {s s'}, k.related opened s s' → k.Sim never operand operand' s s' (k.Fine opened))
    (lhs : Operand) (fine : k.Fine opened lhs s s') :
    k.Sim never (binaryTail level operand s.ahead lhs) (binaryTail level operand' s'.ahead lhs) s s'
      (k.Fine opened) := by
  apply sim_rounds (k.Fine opened) ?_ lhs _ _ fine (left_le_ahead s) (left_le_ahead s')
  intro s s' lhs rounds rounds' fine enough enough'
  by_cases goesOn : ∃ op, s.token = .operator op ∧ op.level = level
  · obtain ⟨op, viewed, fits⟩ := goesOn
    have more : s.token ≠ .finish := by simp [viewed]
    have same := lawful.same_of_ne_finish fine.2 more
    have more' : s'.token ≠ .finish := by simp [same, viewed]
    obtain ⟨round, rest, rfl⟩ := rounds_of_left enough more
    obtain ⟨round', rest', rfl⟩ := rounds_of_left enough' more'
    refine .inr ⟨_, _, rest, rest', binaryTail_step viewed fits _ _ _,
      binaryTail_step (same.trans viewed) fits _ _ _, rfl, rfl,
      fun _ _ ran => left_turn_lt consumes more ran,
      fun _ _ ran => left_turn_lt consumes' more' ran, ?_⟩
    exact sim_turn lawful _ step _ fine.2 same (by rw [viewed]; rfl)
  · have stop : ∀ op, s.token = .operator op → op.level ≠ level := by
      intro op viewed fits
      exact goesOn ⟨op, viewed, fits⟩
    have stop' : ∀ op, s'.token = .operator op → op.level ≠ level := by
      intro op viewed
      rcases lawful.view fine.2 with same | ⟨_, atComma, _⟩
      · exact stop op (same ▸ viewed)
      · rw [atComma] at viewed
        cases viewed
    exact .inl ((Sim.of_pure fine).of_run (binaryTail_stop stop _ _) (binaryTail_stop stop' _ _))

theorem sim_binary (lawful : k.Lawful) (nesting : k.Nesting nested nested')
    (flags : k.flags effects effects') (level : Nat) (met : k.related opened s s') :
    k.Sim never (binary nested effects level) (binary nested' effects' level) s s'
      (k.Fine opened) := by
  induction level generalizing s s' with
  | zero => exact nesting.sim Production.noConfusion met flags
  | succ level ih =>
      apply (ih met).bind
      intro lhs t t' _ _ fine
      apply Sim.get
      exact sim_binaryTail lawful _ (frame_left.closed.keeps_binary nesting.taking.consuming trivial _)
        (frame_left.closed.keeps_binary nesting.taking'.consuming trivial _) ih lhs fine

/-! ### Logical operators -/

theorem sim_connectiveTail (lawful : k.Lawful) (c : Connective)
    {operand operand' : Bool → Eval σ Operand} (consumes : ∀ effects, Consumes (operand effects))
    (consumes' : ∀ effects, Consumes (operand' effects))
    (step : ∀ {s s' effects effects'}, k.related opened s s' → k.flags effects effects' →
      k.Sim never (operand effects) (operand' effects') s s' (k.Fine opened))
    (flags : k.flags effects effects') (lhs : Operand) (fine : k.Fine opened lhs s s') :
    k.Sim never (connectiveTail c operand effects s.ahead lhs)
      (connectiveTail c operand' effects' s'.ahead lhs) s s' (k.Fine opened) := by
  apply sim_rounds (k.Fine opened) ?_ lhs _ _ fine (left_le_ahead s) (left_le_ahead s')
  intro s s' lhs rounds rounds' fine enough enough'
  cases viewed : c.isToken s.token with
  | true =>
      have plain : isPlain s.token = true ∧ s.token ≠ .finish := by
        cases c <;> cases seen : s.token <;> simp_all [Connective.isToken, isPlain]
      have same := lawful.same_of_ne_finish fine.2 plain.2
      have viewed' : c.isToken s'.token = true := by rw [same, viewed]
      have more' : s'.token ≠ .finish := by rw [same]; exact plain.2
      obtain ⟨round, rest, rfl⟩ := rounds_of_left enough plain.2
      obtain ⟨round', rest', rfl⟩ := rounds_of_left enough' more'
      refine .inr ⟨_, _, rest, rest', connectiveTail_step viewed _ _ _,
        connectiveTail_step viewed' _ _ _, rfl, rfl,
        fun _ _ ran => left_turn_lt (consumes _) plain.2 ran,
        fun _ _ ran => left_turn_lt (consumes' _) more' ran, ?_⟩
      exact sim_turn lawful _ (fun met => step met (lawful.mask _ flags)) _ fine.2 same plain.1
  | false =>
      have viewed' : c.isToken s'.token = false := by
        rcases lawful.view fine.2 with same | ⟨_, atComma, _⟩
        · rw [same, viewed]
        · rw [atComma]
          cases c <;> rfl
      exact .inl ((Sim.of_pure fine).of_run (connectiveTail_stop viewed _ _)
        (connectiveTail_stop viewed' _ _))

theorem sim_conjunction (lawful : k.Lawful) (nesting : k.Nesting nested nested')
    (flags : k.flags effects effects') (met : k.related opened s s') :
    k.Sim never (conjunction nested effects) (conjunction nested' effects') s s'
      (k.Fine opened) := by
  apply (sim_binary lawful nesting flags _ met).bind
  intro lhs t t' _ _ fine
  apply Sim.get
  exact sim_connectiveTail lawful _
    (fun _ => frame_left.closed.keeps_binary nesting.taking.consuming trivial _)
    (fun _ => frame_left.closed.keeps_binary nesting.taking'.consuming trivial _)
    (fun met flags => sim_binary lawful nesting flags _ met) flags lhs fine

theorem sim_disjunction (lawful : k.Lawful) (nesting : k.Nesting nested nested')
    (flags : k.flags effects effects') (met : k.related opened s s') :
    k.Sim never (disjunction nested effects) (disjunction nested' effects') s s'
      (k.Fine opened) := by
  apply (sim_conjunction lawful nesting flags met).bind
  intro lhs t t' _ _ fine
  apply Sim.get
  exact sim_connectiveTail lawful _
    (fun _ => frame_left.closed.keeps_conjunction nesting.taking.consuming trivial)
    (fun _ => frame_left.closed.keeps_conjunction nesting.taking'.consuming trivial)
    (fun met flags => sim_conjunction lawful nesting flags met) flags lhs fine

/-! ### Conditional, assignment and comma -/

theorem sim_expect_colon (lawful : k.Lawful) (met : k.related opened s s') :
    k.Sim never (expect isColon .colonExpected) (expect isColon .colonExpected) s s'
      (fun _ => k.related opened) := by
  apply sim_expect lawful met _ _ rfl rfl
  intro same wanted
  apply lawful.plain met same
  cases viewed : s.token <;> simp_all [isColon, isPlain]

theorem sim_conditional (lawful : k.Lawful) (nesting : k.Nesting nested nested')
    (flags : k.flags effects effects') (condition : Operand)
    (fine : k.Fine opened condition s s') :
    k.Sim never (conditional nested effects condition) (conditional nested' effects' condition) s s'
      (k.Fine opened) := by
  -- behind a row of commas and behind the first branch the first run may be lost
  have astray {t : Session σ} (next : Unit → Eval σ Operand) (gone : k.lost t) :
      ∃ e u, (expect isColon .colonExpected >>= next) t = (.error e, u) ∧ k.excused e :=
    ⟨_, t, run_bind_error (lost_expect lawful gone _ _ rfl), lawful.lost_excused gone _⟩
  apply Sim.peek lawful fine.2
  · intro same
    cases viewed : s.token with
    | question =>
        cases condition.value with
        | bool taken =>
            apply (sim_pass lawful fine.2 same (by rw [viewed]; rfl)).bind
            intro _ t t' _ _ met
            cases taken with
            | true =>
                apply ((nesting.simComma met flags).orMissing lawful _).bind_or
                · intro result t t' _ _ fine
                  apply (sim_expect_colon lawful fine.2).bind
                  intro _ t t' _ _ met
                  apply ((lawful.skipSecond met).orMissing lawful _).bind
                  intro _ t t' _ _ met
                  exact .of_pure (fine_value met _)
                · intro result t _ gone
                  exact astray _ gone
            | false =>
                apply ((lawful.skipFirst met).orMissing lawful _).bind_or
                · intro _ t t' _ _ met
                  apply (sim_expect_colon lawful met).bind
                  intro _ t t' _ _ met
                  apply ((nesting.sim Production.noConfusion met flags).orMissing lawful _).bind
                  intro result t t' _ _ fine
                  exact .of_pure (fine_value fine.2 _)
                · intro _ t _ gone
                  exact astray _ gone
        | _ => exact sim_throw lawful fine.2 _
    | _ => exact .of_pure fine
  · intro _ _
    exact .of_pure fine

theorem sim_ternary (lawful : k.Lawful) (nesting : k.Nesting nested nested')
    (flags : k.flags effects effects') (met : k.related opened s s') :
    k.Sim never (ternary nested effects) (ternary nested' effects') s s' (k.Fine opened) := by
  apply (sim_disjunction lawful nesting flags met).bind
  intro condition t t' _ _ fine
  exact sim_conditional lawful nesting flags condition fine

theorem sim_assignTo (lawful : k.Lawful) (nesting : k.Nesting nested nested')
    (flags : k.flags effects effects') (lhs : Operand) (fine : k.Fine opened lhs s s') :
    k.Sim never (assignTo nested effects lhs) (assignTo nested' effects' lhs) s s'
      (k.Fine opened) := by
  apply Sim.peek lawful fine.2
  · intro same
    cases viewed : s.token with
    | assign op =>
        obtain rfl := lawful.writing fine.2 flags (by rw [viewed]; rfl)
        cases target : lhs.target with
        | none => exact sim_throw lawful fine.2 _
        | some name =>
            have known := fine.1 name target
            apply (sim_pass lawful fine.2 same (by rw [viewed]; rfl)).bind
            intro _ t t' _ _ met
            apply ((nesting.sim Production.noConfusion met flags).orMissing lawful _).bind
            intro rhs t t' _ _ fine
            apply (sim_ofExcept lawful fine.2 _).bind
            intro value t t' _ _ met
            -- the journal tells of the assignment only if it has an effect
            split
            · apply (Sim.note lawful met _).bind
              intro _ t t' _ _ met
              apply (Sim.store lawful met _ known _).bind
              intro _ t t' _ _ met
              exact .of_pure (fine_value met _)
            · apply (Sim.store lawful met _ known _).bind
              intro _ t t' _ _ met
              exact .of_pure (fine_value met _)
    | _ => exact .of_pure fine
  · intro _ _
    exact .of_pure fine

theorem sim_assign (lawful : k.Lawful) (nesting : k.Nesting nested nested')
    (flags : k.flags effects effects') (met : k.related opened s s') :
    k.Sim never (assign nested effects) (assign nested' effects') s s' (k.Fine opened) := by
  apply (sim_ternary lawful nesting flags met).bind
  intro lhs t t' _ _ fine
  exact sim_assignTo lawful nesting flags lhs fine

theorem sim_nextExpression (lawful : k.Lawful) {expression expression' : Eval σ Operand}
    (step : ∀ {s s'}, k.related opened s s' →
      k.Sim never expression expression' s s' (k.Fine opened))
    (met : k.related opened s s') (same : s'.token = s.token) (viewed : s.token = .comma) :
    k.Sim never (nextExpression expression) (nextExpression expression') s s'
      (k.Fine opened) := by
  apply (sim_pass lawful met same (by rw [viewed]; rfl)).bind
  intro _ t t' _ _ met
  exact (step met).orMissing lawful _

theorem sim_commaTail (lawful : k.Lawful) {expression expression' : Eval σ Operand}
    (consumes : Consumes expression) (consumes' : Consumes expression')
    (step : ∀ {s s'}, k.related opened s s' →
      k.Sim never expression expression' s s' (k.Fine opened))
    (last : Operand) (rounds rounds' : List Token) (fine : k.Fine opened last s s')
    (enough : s.left ≤ rounds.length) (enough' : s'.left ≤ rounds'.length) :
    k.Sim k.lost (commaTail expression rounds last) (commaTail expression' rounds' last) s s'
      (k.Fine opened) := by
  apply sim_rounds (k.Fine opened) ?_ last _ _ fine enough enough'
  intro s s' last rounds rounds' fine enough enough'
  by_cases viewed : s.token = .comma
  · have more : s.token ≠ .finish := by simp [viewed]
    have same := lawful.same_of_ne_finish fine.2 more
    have more' : s'.token ≠ .finish := by simp [same, viewed]
    obtain ⟨round, rest, rfl⟩ := rounds_of_left enough more
    obtain ⟨round', rest', rfl⟩ := rounds_of_left enough' more'
    refine .inr ⟨_, _, rest, rest', commaTail_step viewed _ _ _,
      commaTail_step (same.trans viewed) _ _ _, rfl, rfl,
      fun _ _ ran => left_nextExpression_lt consumes more ran,
      fun _ _ ran => left_nextExpression_lt consumes' more' ran, ?_⟩
    exact sim_nextExpression lawful step fine.2 same viewed
  · refine .inl ?_
    rcases lawful.view fine.2 with same | ⟨atEnd, _, gone⟩
    · have viewed' : s'.token ≠ .comma := by rw [same]; exact viewed
      exact (Sim.of_pure fine).of_run (commaTail_stop viewed _ _) (commaTail_stop viewed' _ _)
    · -- here the second run would go on behind its comma
      exact .of_gone (commaTail_stop viewed _ _) gone

theorem sim_comma (lawful : k.Lawful) (nesting : k.Nesting nested nested')
    (flags : k.flags effects effects') (met : k.related opened s s') :
    k.Sim k.lost (comma nested effects) (comma nested' effects') s s' (k.Fine opened) := by
  apply (sim_assign lawful nesting flags met).bind
  intro first t t' _ _ fine
  apply Sim.get
  exact sim_commaTail lawful (frame_left.closed.keeps_assign nesting.taking.consuming trivial)
    (frame_left.closed.keeps_assign nesting.taking'.consuming trivial)
    (fun met => sim_assign lawful nesting flags met) first _ _ fine (left_le_ahead t)
    (left_le_ahead t')

end TemplateCalc.Session.Lockstep
