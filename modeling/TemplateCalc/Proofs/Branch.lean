import TemplateCalc.Proofs.Lockstep.Operand
import TemplateCalc.Proofs.Nesting
import TemplateCalc.Proofs.Sequence
import TemplateCalc.Proofs.Single

/-!
Only the branch that is taken matters.

A text in parentheses is evaluated without a look at what follows the parenthesis. A conditional with
a constant condition therefore has the outcome of the branch that is taken, and passes over the
other one, whatever it holds.
-/

set_option autoImplicit false

namespace TemplateCalc.Session

variable {σ : Type}

/-! ### Inside of a parenthesis -/

structure SameEffects (s s' : Session σ) : Prop where
  vars : s'.vars = s.vars
  random : s'.random = s.random
  dialog : s'.dialog = s.dialog

/-- Both runs are inside of the same parenthesis. It is closed at the end of the first text; further
tokens follow in the second. -/
structure Enclosed (others : List Token) (opened : List Bracket) (s s' : Session σ) : Prop where
  readable : s.fault = none
  readable' : s'.fault = none
  effects : SameEffects s s'
  inside : Closes (opened ++ [.paren]) s.ahead
  ahead : s'.ahead = s.ahead ++ others

def enclosure (others : List Token) : Lockstep σ where
  related := Enclosed others
  ended := SameEffects
  excused _ := False
  lost _ := False
  flags effects effects' := effects' = effects
  known _ := True
  offered _ := True

section Enclosure

variable {others : List Token} {opened behind : List Bracket} {s s' : Session σ}

theorem bracketsBehind_of_isPlain {token : Token} (plain : isPlain token = true)
    (brackets : List Bracket) : bracketsBehind brackets token = some brackets := by
  cases token with
  | openParen | closeParen | openBracket | closeBracket | finish => cases plain
  | _ => rfl

theorem Enclosed.token (met : Enclosed others opened s s') : s'.token = s.token := by
  injection met.ahead

theorem Enclosed.rest (met : Enclosed others opened s s') : s'.rest = s.rest ++ others := by
  injection met.ahead

theorem Enclosed.move (met : Enclosed others opened s s') {token : Token} {rest : List Token}
    (inside : Closes (behind ++ [.paren]) (token :: rest)) :
    Enclosed others behind { s with token := token, rest := rest }
      { s' with token := token, rest := rest ++ others } :=
  ⟨met.readable, met.readable', ⟨met.effects.vars, met.effects.random, met.effects.dialog⟩, inside,
    rfl⟩

theorem Enclosed.advance (met : Enclosed others opened s s')
    (moved : bracketsBehind (opened ++ [.paren]) s.token = some (behind ++ [.paren])) :
    (enclosure others).Sim Lockstep.never advance advance s s' (fun _ => Enclosed others behind) := by
  have tail := met.inside.tail moved (List.append_ne_nil_of_right_ne_nil _ (List.cons_ne_nil _ _))
  obtain ⟨next, rest, found⟩ := List.exists_cons_of_ne_nil tail.ne_nil
  have found' : s'.rest = next :: (rest ++ others) := by rw [met.rest, found]; rfl
  have passed' : Session.advance s' =
      (.ok s.token, { s' with token := next, rest := rest ++ others }) := by
    rw [run_advance_cons found', met.token]
  rw [found] at tail
  exact .of_ok (run_advance_cons found) passed' (met.move tail)

theorem advance_readable (readable : s.fault = none) :
    ∃ token rest, Session.advance s = (.ok s.token, { s with token := token, rest := rest }) := by
  cases others : s.rest with
  | nil => exact ⟨.finish, [], run_advance_end others readable⟩
  | cons next rest => exact ⟨next, rest, run_advance_cons others⟩

theorem Enclosed.stray {α : Type} (met : Enclosed others opened s s') (e : EvalError) :
    (enclosure others).Sim Lockstep.never (Session.advance >>= fun _ => throw e : Eval σ α)
      (Session.advance >>= fun _ => throw e) s s' (fun _ _ _ => False) := by
  obtain ⟨token, rest, passed⟩ := advance_readable met.readable
  obtain ⟨token', rest', passed'⟩ := advance_readable met.readable'
  have effects : SameEffects { s with token := token, rest := rest }
      { s' with token := token', rest := rest' } :=
    ⟨met.effects.vars, met.effects.random, met.effects.dialog⟩
  exact (Lockstep.Sim.of_throw e effects).of_run (run_bind_ok passed) (run_bind_ok passed')

theorem Enclosed.skip (met : Enclosed others opened s s') (branch : Branch) :
    (enclosure others).Sim Lockstep.never (skipOperand branch) (skipOperand branch) s s'
      (fun _ => Enclosed others opened) := by
  have inside : Closes ([] ++ (opened ++ [.paren])) (s.token :: s.rest) := met.inside
  obtain ⟨joined, stays⟩ := @skipBranch_enclosed _ branch [] 0 false _ _ inside
    (List.append_ne_nil_of_right_ne_nil _ (List.cons_ne_nil _ _)) others
  have same : skipBranch branch s'.fault [] 0 false s'.token s'.rest =
      (skipBranch branch s.fault [] 0 false s.token s.rest).map
        (fun found => (found.1, found.2 ++ others)) := by
    rw [met.readable, met.readable', met.token, met.rest, joined]
  rw [← met.readable] at stays
  cases passed : skipBranch branch s.fault [] 0 false s.token s.rest with
  | ok found =>
      rw [passed] at same
      exact .of_ok (run_skipOperand_ok passed) (run_skipOperand_ok same)
        (met.move (stays found passed))
  | error e =>
      rw [passed] at same
      exact (Lockstep.Sim.of_throw e met.effects).of_run (run_skipOperand_error passed)
        (run_skipOperand_error same)

theorem enclosure_lawful : (enclosure others : Lockstep σ).Lawful where
  view met := .inl met.token
  lost_finish gone := gone.elim
  lost_excused gone := gone.elim
  excused_missing excused := excused.elim
  ending met := met.effects
  plain met _ plain := by
    apply met.advance
    exact bracketsBehind_of_isPlain plain _
  entering b met _ viewed := by
    apply met.advance
    cases b <;> rw [viewed] <;> rfl
  leaving b met _ viewed := by
    apply met.advance
    cases b <;> rw [viewed] <;> rfl
  stray e met _ := met.stray e
  skipFirst met := (met.skip .first).mayLose
  skipSecond met := met.skip .second
  noting _ met := ⟨met.readable, met.readable', ⟨met.effects.vars, met.effects.random,
    met.effects.dialog⟩, met.inside, met.ahead⟩
  reading met _ := by rw [met.effects.vars]
  sinking met := ⟨met.readable, met.readable', ⟨met.effects.vars, met.effects.random,
    met.effects.dialog⟩, met.inside, met.ahead⟩
  rising met := ⟨met.readable, met.readable', ⟨met.effects.vars, met.effects.random,
    met.effects.dialog⟩, met.inside, met.ahead⟩
  rising_ended effects := ⟨effects.vars, effects.random, effects.dialog⟩
  word _ _ := ⟨⟨trivial, fun _ => trivial⟩, fun _ => ⟨trivial, fun _ => trivial⟩, fun _ _ => trivial⟩
  quoted _ _ := ⟨trivial, fun _ => trivial⟩
  mask other same := congrArg (· && other) same
  writing _ same _ := same
  asking _ _ same := same
  setting value met _ := by
    refine ⟨met.readable, met.readable', ⟨?_, met.effects.random, met.effects.dialog⟩, met.inside,
      met.ahead⟩
    rw [met.effects.vars]
  drawing met := ⟨met.effects.random, fun _ => ⟨met.readable, met.readable',
    ⟨met.effects.vars, rfl, met.effects.dialog⟩, met.inside, met.ahead⟩⟩
  replying met := ⟨met.effects.dialog, fun _ => ⟨met.readable, met.readable',
    ⟨met.effects.vars, met.effects.random, rfl⟩, met.inside, met.ahead⟩⟩

end Enclosure

/-! ### Texts in parentheses -/

structure AtParen (others : List Token) (s s' : Session σ) : Prop where
  readable : s.fault = none
  readable' : s'.fault = none
  effects : SameEffects s s'
  token : s.token = .openParen
  token' : s'.token = .openParen
  inside : Closes [.paren] s.rest
  rest : s'.rest = s.rest ++ others

structure BehindParen (others : List Token) (t t' : Session σ) : Prop where
  readable' : t'.fault = none
  effects : SameEffects t t'
  token : t.token = .finish
  token' : t'.token = others.headD .finish
  rest' : t'.rest = others.tail

section Paren

variable {others : List Token} {s s' t : Session σ} (env : Surroundings σ) {room : Nat}
  {effects : Bool}

theorem AtParen.enter (met : AtParen others s s') :
    (enclosure others).Sim Lockstep.never (discard advance) (discard advance) s s'
      (fun _ => Enclosed others []) := by
  obtain ⟨next, rest, found⟩ := List.exists_cons_of_ne_nil met.inside.ne_nil
  have found' : s'.rest = next :: (rest ++ others) := by rw [met.rest, found]; rfl
  have inside := met.inside
  rw [found] at inside
  exact .of_ok (run_pass_ok (run_advance_cons found)) (run_pass_ok (run_advance_cons found'))
    ⟨met.readable, met.readable', ⟨met.effects.vars, met.effects.random, met.effects.dialog⟩,
      inside, rfl⟩

/-- The parenthesis is closed in both runs, or in none. -/
theorem Enclosed.leave (met : Enclosed others [] s s') :
    (enclosure others).Sim Lockstep.never (expect isCloseParen .parenExpected)
      (expect isCloseParen .parenExpected) s s' (fun _ => BehindParen others) := by
  apply Lockstep.sim_expect enclosure_lawful met _ _ rfl rfl
  intro _ wanted
  have viewed := (Lockstep.isCloseParen_iff s.token).1 wanted
  have last : s.rest = [] := by
    apply met.inside.tail_eq_nil
    rw [viewed]
    rfl
  have last' : s'.rest = others := by rw [met.rest, last]; rfl
  have effects : SameEffects s s' := met.effects
  cases others with
  | nil =>
      have passed' : Session.advance s' = (.ok s.token, { s' with token := .finish, rest := [] }) := by
        rw [run_advance_end last' met.readable', met.token]
      exact .of_ok (run_advance_end last met.readable) passed'
        ⟨met.readable', ⟨effects.vars, effects.random, effects.dialog⟩, rfl, rfl, rfl⟩
  | cons next rest =>
      have passed' : Session.advance s' = (.ok s.token, { s' with token := next, rest := rest }) := by
        rw [run_advance_cons last', met.token]
      exact .of_ok (run_advance_end last met.readable) passed'
        ⟨met.readable', ⟨effects.vars, effects.random, effects.dialog⟩, rfl, rfl, rfl⟩

def parenthesized (nested : Nested σ) (effects : Bool) : Eval σ Operand := do
  discard advance
  let inner ← orMissing .afterParen (comma nested effects)
  expect isCloseParen .parenExpected
  return { value := inner.value }

theorem primary_of_paren {nested : Nested σ} (viewed : s.token = .openParen) (stepWaits : Bool) :
    primary env nested stepWaits effects s = parenthesized nested effects s := by
  rw [primary, run_bind_ok (run_peek s), viewed]
  rfl

theorem sim_parenthesized (met : AtParen others s s') :
    (enclosure others).Sim Lockstep.never (parenthesized (nest env room) effects)
      (parenthesized (nest env room) effects) s s' (fun _ => BehindParen others) := by
  have nesting : (enclosure others).Nesting (nest env room) (nest env room) :=
    enclosure_lawful.nesting env (fun _ gone => gone) room
  apply met.enter.bind
  intro _ t t' _ _ met
  have row : (enclosure others).Sim Lockstep.never (comma (nest env room) effects)
      (comma (nest env room) effects) t t' ((enclosure others).Fine []) :=
    Lockstep.sim_comma enclosure_lawful nesting rfl met
  apply (row.orMissing enclosure_lawful .afterParen).bind
  intro inner t t' _ _ fine
  apply (Enclosed.leave fine.2).bind
  intro _ t t' _ _ behind
  exact .of_pure behind

theorem parenthesized_ne_notImplemented {nested : Nested σ} {e : EvalError}
    (failed : parenthesized nested effects s = (.error e, t)) : e ≠ .notImplemented := by
  rcases error_of_bind failed with failed | ⟨_, u, _, failed⟩
  · rw [discard_eq_bind] at failed
    rcases error_of_bind failed with failed | ⟨_, _, _, impossible⟩
    · exact advance_ne_notImplemented failed
    · cases impossible
  rcases error_of_bind failed with failed | ⟨inner, v, _, failed⟩
  · exact orMissing_ne_notImplemented failed
  rcases error_of_bind failed with failed | ⟨_, _, _, impossible⟩
  · exact expect_ne_notImplemented failed
  · cases impossible

/-- Two steps have the same outcome: the same operand, with both runs behind the parenthesis, or the
same error. -/
def SameOutcome (others : List Token) (m m' : Eval σ Operand) (s s' : Session σ) : Prop :=
  (∃ a t t', m s = (.ok a, t) ∧ m' s' = (.ok a, t') ∧ BehindParen others t t') ∨
    ∃ e t t', m s = (.error e, t) ∧ m' s' = (.error e, t') ∧ SameEffects t t' ∧
      e ≠ .notImplemented

theorem prefixed_of_paren {nested : Nested σ} {a : Operand} (viewed : s.token = .openParen)
    (ran : parenthesized nested effects s = (.ok a, t)) (stop : isPostfix t.token = false) :
    prefixed env nested false effects s = (.ok a, t) := by
  rw [prefixed, run_bind_ok (run_peek s), viewed]
  have ran' := (primary_of_paren env viewed false).trans ran
  change postfixed env nested false effects s = _
  rw [postfixed, run_bind_ok ran', run_bind_ok (run_get t)]
  exact postfixTail_stop stop _ _

theorem prefixed_of_paren_error {nested : Nested σ} {e : EvalError} (viewed : s.token = .openParen)
    (failed : parenthesized nested effects s = (.error e, t)) :
    prefixed env nested false effects s = (.error e, t) := by
  rw [prefixed, run_bind_ok (run_peek s), viewed]
  have failed' := (primary_of_paren env viewed false).trans failed
  change postfixed env nested false effects s = _
  rw [postfixed, run_bind_error failed']

theorem sameOutcome_operand (met : AtParen others s s')
    (stop : isPostfix (others.headD .finish) = false) :
    SameOutcome others (nest env room (.prefixed false) effects)
      (nest env room (.prefixed false) effects) s s' := by
  cases room with
  | zero => exact .inr ⟨.tooComplex, s, s', rfl, rfl, met.effects, EvalError.noConfusion⟩
  | succ room =>
      -- an operand is entered one level deeper in both runs
      have deep : AtParen others { s with depth := s.depth + 1 }
          { s' with depth := s'.depth + 1 } :=
        ⟨met.readable, met.readable', ⟨met.effects.vars, met.effects.random, met.effects.dialog⟩,
          met.token, met.token', met.inside, met.rest⟩
      have sim := @sim_parenthesized _ _ _ _ env room effects deep
      cases ran : parenthesized (nest env room) effects { s with depth := s.depth + 1 } with
      | mk result t =>
          cases result with
          | ok a =>
              rcases sim.ok ran with gone | ⟨t', ran', behind⟩
              · exact gone.elim
              · have stopped : isPostfix t.token = false := by rw [behind.token]; rfl
                have stopped' : isPostfix t'.token = false := by rw [behind.token', stop]
                refine .inl ⟨a, _, _, run_deeper_ok (prefixed_of_paren env met.token ran stopped),
                  run_deeper_ok (prefixed_of_paren env met.token' ran' stopped'), ?_⟩
                exact ⟨behind.readable', ⟨behind.effects.vars, behind.effects.random,
                  behind.effects.dialog⟩, behind.token, behind.token', behind.rest'⟩
          | error e =>
              rcases sim.error ran with excused | ⟨t', ran', effects'⟩
              · exact excused.elim
              · exact .inr ⟨e, _, _, run_deeper_error (prefixed_of_paren_error env met.token ran),
                  run_deeper_error (prefixed_of_paren_error env met.token' ran'),
                  ⟨effects'.vars, effects'.random, effects'.dialog⟩,
                  parenthesized_ne_notImplemented ran⟩

/-- A text in parentheses as a conditional, where nothing goes on behind it. -/
theorem sameOutcome_ternary (met : AtParen others s s')
    (stop : isPostfix (others.headD .finish) = false) (alone : joins (others.headD .finish) = false)
    (last : goesFurther (others.headD .finish) = false) :
    SameOutcome others (ternary (nest env room) effects) (ternary (nest env room) effects) s s' := by
  rcases sameOutcome_operand env met stop with
    ⟨a, t, t', ran, ran', behind⟩ | ⟨e, t, t', failed, failed', others⟩
  · refine .inl ⟨a, t, t', ternary_single ran ?_ ?_, ternary_single ran' ?_ ?_, behind⟩
    · rw [behind.token]
      rfl
    · rw [behind.token]
      rfl
    · rw [behind.token', alone]
    · rw [behind.token', last]
  · exact .inr ⟨e, t, t', ternary_error failed, ternary_error failed', others⟩

end Paren

/-! ### Conditionals with a constant condition -/

def truthWord : Bool → String
  | true => "true"
  | false => "false"

section Conditional

variable {s t : Session σ} (env : Surroundings σ) {room : Nat} {effects : Bool}

theorem prefixed_truth {nested : Nested σ} {truth : Bool} {next : Token} {rest : List Token}
    (viewed : s.token = .word (truthWord truth)) (more : s.rest = next :: rest)
    (stop : isPostfix next = false) :
    prefixed env nested false effects s =
      (.ok { value := .bool truth }, { s with token := next, rest := rest }) := by
  have ran : primary env nested false effects s =
      (.ok { value := .bool truth }, { s with token := next, rest := rest }) := by
    rw [primary, run_bind_ok (run_peek s), viewed]
    simp only
    rw [run_bind_ok (run_pass_ok (run_advance_cons more))]
    cases truth <;> rfl
  rw [prefixed, run_bind_ok (run_peek s), viewed]
  change postfixed env nested false effects s = _
  rw [postfixed, run_bind_ok ran, run_bind_ok (run_get _)]
  exact postfixTail_stop stop _ _

theorem operand_truth {truth : Bool} {next : Token} {rest : List Token}
    (viewed : s.token = .word (truthWord truth)) (more : s.rest = next :: rest)
    (stop : isPostfix next = false) :
    nest env (room + 1) (.prefixed false) effects s =
      (.ok { value := .bool truth }, { s with token := next, rest := rest }) :=
  run_deeper_ok (prefixed_truth env viewed more stop)

theorem whole_of_comma {a : Operand} (ran : comma (nest env room) effects s = (.ok a, t))
    (atEnd : t.token = .finish) : whole env room effects s = (.ok a.value, t) := by
  rw [whole, run_bind_ok (run_orMissing_ok ran), run_complete, atEnd]

theorem whole_of_comma_error {e : EvalError}
    (failed : comma (nest env room) effects s = (.error e, t)) (found : e ≠ .notImplemented) :
    whole env room effects s = (.error e, t) := by
  rw [whole, run_bind_error (run_orMissing_error failed), orMissing_of_ne found]

theorem skipBranch_paren {branch : Branch} {inner : List Token} (closes : Closes [.paren] inner)
    (noEnd : .finish ∉ inner) (others : List Token) :
    skipBranch branch none [] 0 false .openParen (inner ++ others) = skipOn branch 0 others := by
  obtain ⟨first, rest, rfl⟩ := List.exists_cons_of_ne_nil closes.ne_nil
  rw [List.cons_append, skipBranch_pass_cons rfl]
  exact skipBranch_closes closes (List.cons_ne_nil _ _) noEnd others

/-- The two branches of a conditional: the tokens of a text in parentheses, without the opening one. -/
structure Branches (inner inner' : List Token) : Prop where
  closes : Closes [.paren] inner
  closes' : Closes [.paren] inner'
  noEnd : .finish ∉ inner
  noEnd' : .finish ∉ inner'

structure StartsAt (tokens : List Token) (s s' : Session σ) : Prop where
  readable : s'.fault = none
  effects : SameEffects s s'
  ahead : s'.ahead = tokens

variable {inner inner' : List Token} {s' : Session σ}

/-- A conditional with a constant condition, evaluated up to the question mark. -/
theorem ternary_truth {truth : Bool} {rest : List Token}
    (viewed : s.token = .word (truthWord truth)) (more : s.rest = .question :: rest) :
    ternary (nest env (room + 1)) effects s =
      conditional (nest env (room + 1)) effects { value := .bool truth }
        { s with token := .question, rest := rest } := by
  rw [ternary, run_bind_ok (disjunction_single (operand_truth env viewed more rfl) rfl)]

theorem whole_first_branch (branches : Branches inner inner') (readable : s.fault = none)
    (ahead : s.ahead = .openParen :: inner)
    (starts : StartsAt (.word (truthWord true) :: .question :: .openParen ::
      (inner ++ .colon :: .openParen :: inner')) s s') :
    (whole env (room + 1) effects s').1 = (whole env room effects s).1 ∧
      SameEffects (whole env room effects s).2 (whole env (room + 1) effects s').2 := by
  injection ahead with token rest
  injection starts.ahead with token' rest'
  let question : Session σ := { s' with
    token := .question, rest := .openParen :: (inner ++ .colon :: .openParen :: inner') }
  let branch : Session σ := { s' with
    token := .openParen, rest := inner ++ .colon :: .openParen :: inner' }
  have condition : ternary (nest env (room + 1)) effects s' =
      conditional (nest env (room + 1)) effects { value := .bool true } question :=
    ternary_truth env token' rest'
  have passed : advance question = (.ok .question, branch) := rfl
  have met : AtParen (.colon :: .openParen :: inner') s { branch with depth := branch.depth + 1 } :=
    ⟨readable, starts.readable, ⟨starts.effects.vars, starts.effects.random, starts.effects.dialog⟩,
      token, rfl, rest ▸ branches.closes, by rw [rest]⟩
  rcases @sameOutcome_ternary _ _ _ _ env room effects met rfl rfl rfl with
    ⟨a, t, t', ran, ran', behind⟩ | ⟨e, t, t', failed, failed', same, found⟩
  · have alone := whole_of_comma env
      (comma_of_ternary ran (by rw [behind.token]; rfl)) behind.token
    have taken : nest env (room + 1) .comma effects branch =
        (.ok a, { t' with depth := t'.depth - 1 }) :=
      run_deeper_ok (comma_of_ternary ran' (by rw [behind.token']; rfl))
    -- behind the colon nothing but the second branch is left
    have others : skipBranch .second t'.fault [] 0 false .openParen inner' = .ok (.finish, []) := by
      have skipped := @skipBranch_paren .second inner' branches.closes' branches.noEnd' []
      rw [List.append_nil] at skipped
      rw [behind.readable', skipped]
      rfl
    have joint := whole_of_comma env (comma_of_ternary (condition.trans
      (conditional_first rfl passed taken behind.token' (run_advance_cons behind.rest')
        (run_skipOperand_ok others))) rfl) rfl
    rw [alone, joint]
    exact ⟨rfl, behind.effects.vars, behind.effects.random, behind.effects.dialog⟩
  · have alone := whole_of_comma_error env (comma_of_ternary_error failed) found
    have failed' : nest env (room + 1) .comma effects branch =
        (.error e, { t' with depth := t'.depth - 1 }) :=
      run_deeper_error (comma_of_ternary_error failed')
    have joint := whole_of_comma_error env
      (comma_of_ternary_error (condition.trans (conditional_first_error rfl passed failed' found)))
      found
    rw [alone, joint]
    exact ⟨rfl, same.vars, same.random, same.dialog⟩

theorem whole_second_branch (branches : Branches inner inner') (readable : s.fault = none)
    (ahead : s.ahead = .openParen :: inner')
    (starts : StartsAt (.word (truthWord false) :: .question :: .openParen ::
      (inner ++ .colon :: .openParen :: inner')) s s') :
    (whole env (room + 1) effects s').1 = (whole env room effects s).1 ∧
      SameEffects (whole env room effects s).2 (whole env (room + 1) effects s').2 := by
  injection ahead with token rest
  injection starts.ahead with token' rest'
  let question : Session σ := { s' with
    token := .question, rest := .openParen :: (inner ++ .colon :: .openParen :: inner') }
  let skipped : Session σ := { s' with
    token := .openParen, rest := inner ++ .colon :: .openParen :: inner' }
  let branch : Session σ := { s' with token := .openParen, rest := inner' }
  have condition : ternary (nest env (room + 1)) effects s' =
      conditional (nest env (room + 1)) effects { value := .bool false } question :=
    ternary_truth env token' rest'
  -- the first branch is passed over as one row of tokens in brackets, up to the colon
  have others : skipBranch .first s'.fault [] 0 false .openParen
      (inner ++ .colon :: .openParen :: inner') = .ok (.colon, .openParen :: inner') := by
    rw [starts.readable, skipBranch_paren branches.closes branches.noEnd, skipOn, skipBranch_halt rfl]
    rfl
  have decided : ternary (nest env (room + 1)) effects s' =
      (do
        let result ← orMissing .elseBranch (nest env (room + 1) .ternary effects)
        return { value := result.value } : Eval σ Operand) branch :=
    condition.trans (conditional_second rfl (rfl : advance question = (.ok .question, skipped))
      (run_skipOperand_ok others) rfl rfl)
  have met : AtParen [] s { branch with depth := branch.depth + 1 } :=
    ⟨readable, starts.readable, ⟨starts.effects.vars, starts.effects.random, starts.effects.dialog⟩,
      token, rfl, rest ▸ branches.closes', by rw [rest, List.append_nil]⟩
  -- the second branch, one level deeper, has the same outcome as it has alone
  rcases @sameOutcome_ternary _ _ _ _ env room effects met rfl rfl rfl with
    ⟨a, t, t', ran, ran', behind⟩ | ⟨e, t, t', failed, failed', same, found⟩
  · have alone := whole_of_comma env
      (comma_of_ternary ran (by rw [behind.token]; rfl)) behind.token
    have taken : nest env (room + 1) .ternary effects branch =
        (.ok a, { t' with depth := t'.depth - 1 }) := run_deeper_ok ran'
    rw [run_bind_ok (run_orMissing_ok taken)] at decided
    have joint := whole_of_comma env (comma_of_ternary decided (by rw [behind.token']; rfl))
      behind.token'
    rw [alone, joint]
    exact ⟨rfl, behind.effects.vars, behind.effects.random, behind.effects.dialog⟩
  · have alone := whole_of_comma_error env (comma_of_ternary_error failed) found
    have failed' : nest env (room + 1) .ternary effects branch =
        (.error e, { t' with depth := t'.depth - 1 }) := run_deeper_error failed'
    rw [run_bind_error (run_orMissing_error failed'), orMissing_of_ne found] at decided
    have joint := whole_of_comma_error env (comma_of_ternary_error decided) found
    rw [alone, joint]
    exact ⟨rfl, same.vars, same.random, same.dialog⟩

end Conditional

end TemplateCalc.Session

namespace TemplateCalc.Calculator

variable {σ : Type}

/-! ### Whole texts -/

/-- The words for the truth values are keywords, so they are read as words in every radix. -/
theorem reads_truth (rules : Scan.Rules) (truth : Bool) :
    Scan.Reads rules false (Session.truthWord truth).toList [.word (Session.truthWord truth)]
      none := by
  have notNumber : Scan.wordIsNumber rules.radix (Session.truthWord truth).toList = false := by
    have keyword : isKeyword (String.ofList
        (((Session.truthWord truth).toList.takeWhile Text.isNameChar).map Char.toLower)) = true := by
      cases truth <;> decide +kernel
    simp only [Scan.wordIsNumber, keyword, Bool.not_true, Bool.and_false]
  cases truth with
  | true =>
      have read : Scan.tokenFrom rules false 't' ['r', 'u', 'e'] = .ok (.word "true", []) := by
        have notNumber : Scan.wordIsNumber rules.radix ['t', 'r', 'u', 'e'] = false := notNumber
        rw [Scan.tokenFrom, notNumber, Bool.and_false]
        rfl
      exact .token rfl read (.finish rfl)
  | false =>
      have read : Scan.tokenFrom rules false 'f' ['a', 'l', 's', 'e'] =
          .ok (.word "false", []) := by
        have notNumber : Scan.wordIsNumber rules.radix ['f', 'a', 'l', 's', 'e'] = false := notNumber
        rw [Scan.tokenFrom, notNumber, Bool.and_false]
        rfl
      exact .token rfl read (.finish rfl)

variable {rules : Scan.Rules} {first second : String}

theorem reads_paren (plain : rules.separator = none)
    (readable : (Scan.scan rules first).fault = none) {afterOperand : Bool} {more : List Char}
    {others : List Token} (behind : Scan.Reads rules true more others none) :
    Scan.Reads rules afterOperand ('(' :: (first.toList ++ ')' :: more))
      (.openParen :: ((Scan.scan rules first).tokens ++ [.closeParen] ++ others)) none := by
  have inside := Scan.scan_reads rules first
  rw [readable] at inside
  apply Scan.Reads.cons (by decide) (fun _ _ => rfl)
  rw [List.append_assoc]
  apply inside.append (by decide) plain
  exact .cons (by decide) (fun _ _ => rfl) behind

theorem scan_paren (plain : rules.separator = none)
    (readable : (Scan.scan rules first).fault = none) :
    Scan.scan rules ("(" ++ first ++ ")") =
      ⟨.openParen :: ((Scan.scan rules first).tokens ++ [.closeParen]), none⟩ := by
  apply Scan.scan_of_reads
  have reads := @reads_paren rules first plain readable false [] [] (.finish rfl)
  rw [List.append_nil] at reads
  have text : ("(" ++ first ++ ")").toList = '(' :: (first.toList ++ [')']) := by simp
  rw [text]
  exact reads

theorem scan_conditional (plain : rules.separator = none) (truth : Bool)
    (readable : (Scan.scan rules first).fault = none)
    (readable' : (Scan.scan rules second).fault = none) :
    Scan.scan rules (Session.truthWord truth ++ " ? (" ++ first ++ ") : (" ++ second ++ ")") =
      ⟨.word (Session.truthWord truth) :: .question :: .openParen ::
        ((Scan.scan rules first).tokens ++ [.closeParen] ++
          .colon :: .openParen :: ((Scan.scan rules second).tokens ++ [.closeParen])), none⟩ := by
  apply Scan.scan_of_reads
  have last := @reads_paren rules second plain readable' false [] [] (.finish rfl)
  rw [List.append_nil] at last
  have colon : Scan.Reads rules true (' ' :: ':' :: ' ' :: '(' :: (second.toList ++ [')']))
      (.colon :: .openParen :: ((Scan.scan rules second).tokens ++ [.closeParen])) none := by
    apply Scan.Reads.space
    apply Scan.Reads.cons (by decide) (fun _ _ => rfl)
    exact last.space
  have branches := @reads_paren rules first plain readable false _ _ colon
  have question : Scan.Reads rules true (' ' :: '?' :: ' ' :: '(' :: (first.toList ++ ')' :: ' ' ::
      ':' :: ' ' :: '(' :: (second.toList ++ [')'])))
      (.question :: .openParen :: ((Scan.scan rules first).tokens ++ [.closeParen] ++
        .colon :: .openParen :: ((Scan.scan rules second).tokens ++ [.closeParen]))) none := by
    apply Scan.Reads.space
    apply Scan.Reads.cons (by decide) (fun _ _ => rfl)
    exact branches.space
  have text : (Session.truthWord truth ++ " ? (" ++ first ++ ") : (" ++ second ++ ")").toList =
      (Session.truthWord truth).toList ++ ' ' :: '?' :: ' ' :: '(' :: (first.toList ++ ')' :: ' ' ::
        ':' :: ' ' :: '(' :: (second.toList ++ [')'])) := by
    simp
  rw [text]
  exact (reads_truth rules truth).append (by decide) plain question

theorem evaluate_of_whole {env : Surroundings σ} {options options' : EvalOptions}
    {c : Calculator σ} {text text' : String} {s s' : Session σ}
    (messages : options'.legacyMessages = options.legacyMessages)
    (opened : c.session? (Scan.scan options.rules text) = .ok s)
    (opened' : c.session? (Scan.scan options'.rules text') = .ok s')
    (agree : (Session.whole env options'.maxDepth options'.sideEffects s').1 =
        (Session.whole env options.maxDepth options.sideEffects s).1 ∧
      Session.SameEffects (Session.whole env options.maxDepth options.sideEffects s).2
        (Session.whole env options'.maxDepth options'.sideEffects s').2) :
    (c.evaluate env options' text').result = (c.evaluate env options text).result ∧
      (c.evaluate env options' text').calculator = (c.evaluate env options text).calculator := by
  obtain ⟨same, effects⟩ := agree
  obtain ⟨ran, calculator⟩ := evaluate_eq env options c text
  obtain ⟨ran', calculator'⟩ := evaluate_eq env options' c text'
  rw [ran, calculator, ran', calculator', run_of_session opened, run_of_session opened']
  simp only [same, messages, effects.vars, effects.random, effects.dialog, and_self]

/-- A conditional with a constant condition has the outcome of the branch that is taken, evaluated
with one level less. The other branch must be readable and its brackets nested properly; what it
says does not matter. -/
theorem only_taken_branch_matters (env : Surroundings σ) (options : EvalOptions)
    (c : Calculator σ) (first second : String) (depth : Nat)
    (plain : options.digitSeparators = false)
    (readable : (Scan.scan options.rules first).fault = none)
    (nested : Session.wellNested (Scan.scan options.rules first).tokens = true)
    (readable' : (Scan.scan options.rules second).fault = none)
    (nested' : Session.wellNested (Scan.scan options.rules second).tokens = true) :
    let outcome (maxDepth : Nat) (text : String) :=
      c.evaluate env { options with maxDepth := maxDepth } text
    ((outcome (depth + 1) ("true ? (" ++ first ++ ") : (" ++ second ++ ")")).result =
        (outcome depth ("(" ++ first ++ ")")).result ∧
      (outcome (depth + 1) ("true ? (" ++ first ++ ") : (" ++ second ++ ")")).calculator =
        (outcome depth ("(" ++ first ++ ")")).calculator) ∧
    ((outcome (depth + 1) ("false ? (" ++ first ++ ") : (" ++ second ++ ")")).result =
        (outcome depth ("(" ++ second ++ ")")).result ∧
      (outcome (depth + 1) ("false ? (" ++ first ++ ") : (" ++ second ++ ")")).calculator =
        (outcome depth ("(" ++ second ++ ")")).calculator) := by
  have separator : options.rules.separator = none := by
    rw [EvalOptions.rules, plain]
    rfl
  have noEnd := (Scan.scan_reads options.rules first).finish_not_mem
  have noEnd' := (Scan.scan_reads options.rules second).finish_not_mem
  -- well nested tokens with their closing parenthesis are a branch that can be passed over
  have branches : Session.Branches ((Scan.scan options.rules first).tokens ++ [.closeParen])
      ((Scan.scan options.rules second).tokens ++ [.closeParen]) :=
    ⟨Session.closes_of_wellNested nested, Session.closes_of_wellNested nested', by simp [noEnd],
      by simp [noEnd']⟩
  have conditional (truth : Bool) := scan_conditional separator truth readable readable'
  have compared {text text' : String} {s s' : Session σ} :=
    @evaluate_of_whole σ env { options with maxDepth := depth }
      { options with maxDepth := depth + 1 } c text text' s s' rfl
  constructor
  · have alone := c.session_of_tokens (scan_paren separator readable)
    have both := c.session_of_tokens (conditional true)
    exact compared alone both
      (Session.whole_first_branch env branches rfl rfl ⟨rfl, ⟨rfl, rfl, rfl⟩, rfl⟩)
  · have alone := c.session_of_tokens (scan_paren separator readable')
    have both := c.session_of_tokens (conditional false)
    exact compared alone both
      (Session.whole_second_branch env branches rfl rfl ⟨rfl, ⟨rfl, rfl, rfl⟩, rfl⟩)

/-- A branch with an assignment, and one that would divide by zero and ask for an unknown name. -/
theorem assignment_instead_of_failure :
    let env : Surroundings Unit := ⟨Host.none, none, 0⟩
    let c : Calculator Unit := { random := Random.ofSeed 0, dialog := () }
    let outcome (maxDepth : Nat) (text : String) := c.evaluate env { maxDepth := maxDepth } text
    (Scan.scan ({} : EvalOptions).rules "a = [b]/0").fault = none ∧
      Session.wellNested (Scan.scan ({} : EvalOptions).rules "a = [b]/0").tokens = true ∧
      (outcome 5 ("false ? (" ++ "a = [b]/0" ++ ") : (" ++ "a = 2" ++ ")")).result =
        (outcome 4 ("(" ++ "a = 2" ++ ")")).result := by
  intro env c outcome
  have readable : (Scan.scan ({} : EvalOptions).rules "a = [b]/0").fault = none :=
    Option.isNone_iff_eq_none.mp (by decide +kernel)
  have nested : Session.wellNested (Scan.scan ({} : EvalOptions).rules "a = [b]/0").tokens = true := by
    decide +kernel
  have readable' : (Scan.scan ({} : EvalOptions).rules "a = 2").fault = none :=
    Option.isNone_iff_eq_none.mp (by decide +kernel)
  have nested' : Session.wellNested (Scan.scan ({} : EvalOptions).rules "a = 2").tokens = true := by
    decide +kernel
  exact ⟨readable, nested, (only_taken_branch_matters env {} c "a = [b]/0" "a = 2" 4 rfl readable
    nested readable' nested').2.1⟩

end TemplateCalc.Calculator
