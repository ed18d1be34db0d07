import TemplateCalc.Proofs.Lockstep.Operand
import TemplateCalc.Proofs.Reading

/-!
Commas are sequencing.

Two texts divided by a comma are evaluated like the first and then the second. While the first text
lasts, its evaluation alone and inside the longer text run in lockstep: what stands at the end of the
text in the one run stands at the comma in the other. Behind the comma both runs see the same tokens
and differ in nothing that matters.
-/

set_option autoImplicit false

namespace TemplateCalc.Session

variable {σ : Type}

/-! ### Texts that cannot be read -/

def Unreadable (s : Session σ) : Prop :=
  s.fault ≠ none ∧ .finish ∉ s.ahead

theorem suffix_of_skips {branch : Branch} {fault : Option LexicalFault}
    {found : Token × List Token} {brackets : List Bracket} {pending : Nat} {skipped : Bool}
    {token : Token} {rest : List Token}
    (skips : Skips branch fault found brackets pending skipped token rest)
    (broken : fault ≠ none) : found.1 :: found.2 <:+ token :: rest := by
  induction skips with
  | halt _ => exact List.suffix_refl _
  | last _ readable => exact absurd readable broken
  | more _ _ ih => exact ih.trans (List.suffix_cons _ _)

/-- No step gets past the place from which on a text cannot be read. -/
theorem frame_unreadable :
    Frame (fun s t : Session σ => Unreadable s → Unreadable t) (fun _ => True) where
  refl _ unreadable := unreadable
  trans first second unreadable := second (first unreadable)
  mask _ _ := trivial
  passing s unreadable := by
    obtain ⟨broken, noEnd⟩ := unreadable
    cases s with
    | mk token rest fault vars random dialog depth journal =>
        cases rest with
        | cons next rest => exact ⟨broken, fun member => noEnd (List.mem_cons_of_mem _ member)⟩
        | nil =>
            cases fault with
            | none => exact absurd rfl broken
            | some fault => exact ⟨broken, noEnd⟩
  skipping branch s unreadable := by
    obtain ⟨broken, noEnd⟩ := unreadable
    rw [run_skipOperand]
    cases passed : skipBranch branch s.fault [] 0 false s.token s.rest with
    | error e => exact ⟨broken, noEnd⟩
    | ok found =>
        have suffix := suffix_of_skips (skips_of_skipBranch passed) broken
        exact ⟨broken, fun member => noEnd (suffix.mem member)⟩
  noting _ _ unreadable := unreadable
  drawing _ _ unreadable := unreadable
  setting _ _ _ _ unreadable := unreadable
  asking _ _ _ unreadable := unreadable
  sinking kept := kept

theorem run_complete (operand : Operand) (s : Session σ) :
    complete operand s =
      match s.token with
      | .finish => (.ok operand.value, s)
      | token => (.error (.grammar (.trailing token)), s) := by
  rw [complete, run_bind_ok (run_peek s)]
  cases s.token <;> rfl

theorem token_of_whole {env : Surroundings σ} {maxDepth : Nat} {effects : Bool} {s t : Session σ}
    {value : Value} (ran : whole env maxDepth effects s = (.ok value, t)) : t.token = .finish := by
  obtain ⟨operand, u, _, ended⟩ := ok_of_bind ran
  rw [run_complete] at ended
  split at ended
  · rename_i viewed
    cases ended
    exact viewed
  · cases ended

theorem left_of_whole {env : Surroundings σ} {maxDepth : Nat} {effects : Bool} {s t : Session σ}
    {value : Value} (ran : whole env maxDepth effects s = (.ok value, t)) : 0 < s.left := by
  obtain ⟨operand, u, began, _⟩ := ok_of_bind ran
  have strict : Strict (comma (nest env maxDepth) effects) := by
    apply (strict_assign (taking_nest env maxDepth)).bind
    intro first
    apply frame_left.keeps_bind frame_left.closed.keeps_get
    intro s
    exact frame_left.closed.keeps_commaTail
      (frame_left.closed.keeps_assign (frame_left.nesting env maxDepth) trivial) _ first
  exact Nat.lt_of_le_of_lt (Nat.zero_le _) (strict.orMissing _ s operand u began)

/-- A text that was evaluated could be read to its end. -/
theorem fault_of_whole {env : Surroundings σ} {maxDepth : Nat} {effects : Bool} {s t : Session σ}
    {value : Value} (noEnd : .finish ∉ s.ahead)
    (ran : whole env maxDepth effects s = (.ok value, t)) : s.fault = none := by
  cases faulty : s.fault with
  | none => rfl
  | some fault =>
      have broken : s.fault ≠ none := by rw [faulty]; exact Option.some_ne_none fault
      have kept : Unreadable (whole env maxDepth effects s).2 :=
        frame_unreadable.keeps_whole env maxDepth trivial s ⟨broken, noEnd⟩
      rw [ran] at kept
      refine absurd ?_ kept.2
      rw [ahead, token_of_whole ran]
      exact List.mem_cons_self

/-! ### A comma where the text ends -/

/-- The second run has a comma and further tokens where the text of the first one ends. -/
structure Continued (behind : List Token) (fault : Option LexicalFault) (s s' : Session σ) :
    Prop where
  readable : s.fault = none
  fault : s'.fault = fault
  vars : s'.vars = s.vars
  random : s'.random = s.random
  dialog : s'.dialog = s.dialog
  tokens :
    (.finish ∉ s.ahead ∧ s'.ahead = s.ahead ++ .comma :: behind) ∨
      (s.ahead = [.finish] ∧ s'.ahead = .comma :: behind)

/-- The lockstep of a text and a longer one. Nothing is said about errors in the first text. -/
def continuation (behind : List Token) (fault : Option LexicalFault) : Lockstep σ where
  related _ := Continued behind fault
  ended _ _ := True
  excused _ := True
  lost s := s.token = .finish
  flags effects effects' := effects' = effects
  known _ := True
  offered _ := True

section Continuation

variable {behind : List Token} {fault : Option LexicalFault} {s s' : Session σ}

theorem Continued.same_or_comma (met : Continued behind fault s s') :
    (s'.token = s.token ∧ s.token ≠ .finish ∧ .finish ∉ s.rest ∧
        s'.rest = s.rest ++ .comma :: behind) ∨
      (s.token = .finish ∧ s.rest = [] ∧ s'.token = .comma ∧ s'.rest = behind) := by
  rcases met.tokens with ⟨noEnd, joined⟩ | ⟨ended, joined⟩
  · injection joined with same others
    refine .inl ⟨same, ?_, ?_, others⟩
    · exact fun atEnd => noEnd (atEnd ▸ List.mem_cons_self)
    · exact fun member => noEnd (List.mem_cons_of_mem _ member)
  · injection ended with atEnd others
    injection joined with atComma others'
    exact .inr ⟨atEnd, others, atComma, others'⟩

theorem Continued.move (met : Continued behind fault s s') {token token' : Token}
    {rest rest' : List Token}
    (tokens : (.finish ∉ token :: rest ∧ token' :: rest' = token :: rest ++ .comma :: behind) ∨
      (token :: rest = [.finish] ∧ token' :: rest' = .comma :: behind)) :
    Continued behind fault { s with token := token, rest := rest }
      { s' with token := token', rest := rest' } :=
  ⟨met.readable, met.fault, met.vars, met.random, met.dialog, tokens⟩

theorem Continued.advance (met : Continued behind fault s s') (same : s'.token = s.token) :
    (continuation behind fault).Sim Lockstep.never advance advance s s'
      (fun _ => Continued behind fault) := by
  rcases met.same_or_comma with ⟨_, more, noEnd, joined⟩ | ⟨atEnd, _, atComma, _⟩
  · cases others : s.rest with
    | nil =>
        rw [others] at joined
        refine .of_ok (run_advance_end others met.readable) ?_ (met.move (.inr ⟨rfl, rfl⟩))
        rw [run_advance_cons joined, same]
    | cons next rest =>
        rw [others] at joined noEnd
        refine .of_ok (run_advance_cons others) ?_ (met.move (.inl ⟨noEnd, rfl⟩))
        rw [run_advance_cons joined, same]
  · rw [same, atEnd] at atComma
    cases atComma

/-- The second run passes over a branch as the first one does. A branch that lasts to the end of the
first text ends at the comma in the second, if a comma can end it. -/
theorem skipBranch_continued {branch : Branch} {found : Token × List Token}
    {brackets : List Bracket} {pending : Nat} {skipped : Bool} {token : Token} {rest : List Token}
    (skips : Skips branch none found brackets pending skipped token rest)
    (noEnd : .finish ∉ token :: rest) :
    (.finish ∉ found.1 :: found.2 ∧
        skipBranch branch fault brackets pending skipped token (rest ++ .comma :: behind) =
          .ok (found.1, found.2 ++ .comma :: behind)) ∨
      (found = (.finish, []) ∧ (branch = .second →
        skipBranch branch fault brackets pending skipped token (rest ++ .comma :: behind) =
          .ok (.comma, behind))) := by
  induction skips with
  | halt verdict =>
      rw [skipBranch_halt verdict]
      exact .inl ⟨noEnd, rfl⟩
  | last verdict _ =>
      refine .inr ⟨rfl, ?_⟩
      rintro rfl
      -- the comma behind the branch is outside of all brackets
      rw [List.nil_append, skipBranch_pass_cons verdict, skipBranch_halt rfl]
      rfl
  | more verdict _ ih =>
      rw [List.cons_append, skipBranch_pass_cons verdict]
      exact ih fun member => noEnd (List.mem_cons_of_mem _ member)

theorem Continued.skip (met : Continued behind fault s s') (branch : Branch) :
    (continuation behind fault).Sim (fun t => branch = .first ∧ t.token = .finish)
      (skipOperand branch) (skipOperand branch) s s' (fun _ => Continued behind fault) := by
  constructor
  · intro a t ran
    cases passed : skipBranch branch s.fault [] 0 false s.token s.rest with
    | error e =>
        rw [run_skipOperand_error passed] at ran
        cases ran
    | ok found =>
        rw [run_skipOperand_ok passed] at ran
        cases ran
        rw [met.readable] at passed
        rcases met.same_or_comma with ⟨same, more, noEnd, joined⟩ | ⟨atEnd, others, _, _⟩
        · have noEnd : .finish ∉ s.token :: s.rest := by
            rw [List.mem_cons, not_or]
            exact ⟨more.symm, noEnd⟩
          have continued := @skipBranch_continued behind s'.fault _ _ _ _ _ _ _
            (skips_of_skipBranch passed) noEnd
          rcases continued with ⟨noEnd, passed'⟩ | ⟨rfl, passed'⟩
          · rw [← same, ← joined] at passed'
            exact .inr ⟨_, run_skipOperand_ok passed', met.move (.inl ⟨noEnd, rfl⟩)⟩
          · cases branch with
            | first => exact .inl ⟨rfl, rfl⟩
            | second =>
                have passed' := passed' rfl
                rw [← same, ← joined] at passed'
                exact .inr ⟨_, run_skipOperand_ok passed', met.move (.inr ⟨rfl, rfl⟩)⟩
        · rw [atEnd, others, skipBranch_halt rfl] at passed
          cases passed
  · intro e t _
    exact .inl trivial

theorem continuation_lawful : (continuation behind fault : Lockstep σ).Lawful where
  view met := by
    rcases met.same_or_comma with ⟨same, _⟩ | ⟨atEnd, _, atComma, _⟩
    · exact .inl same
    · exact .inr ⟨atEnd, atComma, atEnd⟩
  lost_finish gone := gone
  lost_excused _ _ := trivial
  excused_missing _ _ := trivial
  ending _ := trivial
  plain met same _ := met.advance same
  entering _ met same _ := met.advance same
  leaving _ met same _ := met.advance same
  stray e _ _ := by
    constructor
    · intro a t ran
      obtain ⟨_, _, _, failed⟩ := ok_of_bind ran
      cases failed
    · intro e t _
      exact .inl trivial
  -- only a first branch can run into the end of the first text and be lost
  skipFirst met := by
    constructor
    · intro a t ran
      rcases (met.skip .first).ok ran with gone | found
      · exact .inl gone.2
      · exact .inr found
    · exact fun ran => (met.skip .first).error ran
  skipSecond met := by
    constructor
    · intro a t ran
      rcases (met.skip .second).ok ran with gone | found
      · cases gone.1
      · exact .inr found
    · exact fun ran => (met.skip .second).error ran
  noting _ met := ⟨met.readable, met.fault, met.vars, met.random, met.dialog, met.tokens⟩
  reading met _ := by rw [met.vars]
  sinking met := ⟨met.readable, met.fault, met.vars, met.random, met.dialog, met.tokens⟩
  rising met := ⟨met.readable, met.fault, met.vars, met.random, met.dialog, met.tokens⟩
  rising_ended _ := trivial
  word _ _ := ⟨⟨trivial, fun _ => trivial⟩, fun _ => ⟨trivial, fun _ => trivial⟩, fun _ _ => trivial⟩
  quoted _ _ := ⟨trivial, fun _ => trivial⟩
  mask other same := congrArg (· && other) same
  writing _ same _ := same
  asking _ _ same := same
  setting value met _ := by
    refine ⟨met.readable, met.fault, ?_, met.random, met.dialog, met.tokens⟩
    rw [met.vars]
  drawing met :=
    ⟨met.random, fun _ => ⟨met.readable, met.fault, met.vars, rfl, met.dialog, met.tokens⟩⟩
  replying met :=
    ⟨met.dialog, fun _ => ⟨met.readable, met.fault, met.vars, met.random, rfl, met.tokens⟩⟩

end Continuation

/-! ### States that differ in nothing that matters -/

/-- Two states with the same tokens, variables, random source and dialog. The depth and the journal
are not looked at by any step. -/
structure Alike (s s' : Session σ) : Prop where
  token : s'.token = s.token
  rest : s'.rest = s.rest
  fault : s'.fault = s.fault
  vars : s'.vars = s.vars
  random : s'.random = s.random
  dialog : s'.dialog = s.dialog

def repetition : Lockstep σ where
  related _ := Alike
  ended := Alike
  excused _ := False
  lost _ := False
  flags effects effects' := effects' = effects
  known _ := True
  offered _ := True

section Repetition

variable {s s' : Session σ}

theorem Alike.move (alike : Alike s s') (token : Token) (rest : List Token) :
    Alike { s with token := token, rest := rest } { s' with token := token, rest := rest } :=
  ⟨rfl, rfl, alike.fault, alike.vars, alike.random, alike.dialog⟩

theorem Alike.advance (alike : Alike s s') :
    repetition.Sim Lockstep.never advance advance s s' (fun _ => Alike) := by
  cases others : s.rest with
  | cons next rest =>
      have others' := alike.rest.trans others
      refine .of_ok (run_advance_cons others) ?_ (alike.move next rest)
      rw [run_advance_cons others', alike.token]
  | nil =>
      have others' := alike.rest.trans others
      cases broken : s.fault with
      | none =>
          refine .of_ok (run_advance_end others broken) ?_ (alike.move .finish [])
          rw [run_advance_end others' (alike.fault.trans broken), alike.token]
      | some fault =>
          apply (Lockstep.Sim.of_throw (.lexical fault) alike).of_run
          · exact run_advance_fault others broken
          · exact run_advance_fault others' (alike.fault.trans broken)

theorem Alike.skip (alike : Alike s s') (branch : Branch) :
    repetition.Sim Lockstep.never (skipOperand branch) (skipOperand branch) s s'
      (fun _ => Alike) := by
  have same : skipBranch branch s'.fault [] 0 false s'.token s'.rest =
      skipBranch branch s.fault [] 0 false s.token s.rest := by
    rw [alike.fault, alike.token, alike.rest]
  cases passed : skipBranch branch s.fault [] 0 false s.token s.rest with
  | ok found =>
      exact .of_ok (run_skipOperand_ok passed) (run_skipOperand_ok (same.trans passed))
        (alike.move found.1 found.2)
  | error e =>
      apply (Lockstep.Sim.of_throw e alike).of_run
      · exact run_skipOperand_error passed
      · exact run_skipOperand_error (same.trans passed)

theorem repetition_lawful : (repetition : Lockstep σ).Lawful where
  view alike := .inl alike.token
  lost_finish gone := gone.elim
  lost_excused gone := gone.elim
  excused_missing excused := excused.elim
  ending alike := alike
  plain alike _ _ := alike.advance
  entering _ alike _ _ := alike.advance
  leaving _ alike _ _ := alike.advance
  stray e alike _ := alike.advance.bind fun _ _ _ _ _ alike => .of_throw e alike
  skipFirst alike := (alike.skip .first).mayLose
  skipSecond alike := alike.skip .second
  noting _ alike := ⟨alike.token, alike.rest, alike.fault, alike.vars, alike.random, alike.dialog⟩
  reading alike _ := by rw [alike.vars]
  sinking alike := ⟨alike.token, alike.rest, alike.fault, alike.vars, alike.random, alike.dialog⟩
  rising alike := ⟨alike.token, alike.rest, alike.fault, alike.vars, alike.random, alike.dialog⟩
  rising_ended alike :=
    ⟨alike.token, alike.rest, alike.fault, alike.vars, alike.random, alike.dialog⟩
  word _ _ := ⟨⟨trivial, fun _ => trivial⟩, fun _ => ⟨trivial, fun _ => trivial⟩, fun _ _ => trivial⟩
  quoted _ _ := ⟨trivial, fun _ => trivial⟩
  mask other same := congrArg (· && other) same
  writing _ same _ := same
  asking _ _ same := same
  setting value alike _ := by
    refine ⟨alike.token, alike.rest, alike.fault, ?_, alike.random, alike.dialog⟩
    rw [alike.vars]
  drawing alike := ⟨alike.random, fun _ =>
    ⟨alike.token, alike.rest, alike.fault, alike.vars, rfl, alike.dialog⟩⟩
  replying alike := ⟨alike.dialog, fun _ =>
    ⟨alike.token, alike.rest, alike.fault, alike.vars, alike.random, rfl⟩⟩

theorem Alike.outcome {α : Type} {m m' : Eval σ α} {Post : α → Session σ → Session σ → Prop}
    (sim : repetition.Sim repetition.lost m m' s s' Post)
    (implies : ∀ a t t', Post a t t' → Alike t t') :
    (m' s').1 = (m s).1 ∧ Alike (m s).2 (m' s').2 := by
  cases ran : m s with
  | mk result t =>
      cases result with
      | ok a =>
          rcases sim.ok ran with gone | ⟨t', ran', holds⟩
          · exact gone.elim
          · rw [ran']
            exact ⟨rfl, implies a t t' holds⟩
      | error e =>
          rcases sim.error ran with excused | ⟨t', ran', alike⟩
          · exact excused.elim
          · rw [ran']
            exact ⟨rfl, alike⟩

end Repetition

/-! ### Behind the first text -/

section Sequel

variable {behind : List Token} {fault : Option LexicalFault} {s s' t : Session σ}
  (env : Surroundings σ) {room : Nat} {effects : Bool}

theorem continuation_nesting (behind : List Token) (fault : Option LexicalFault) (room : Nat) :
    (continuation behind fault).Nesting (nest env room) (nest env room) :=
  continuation_lawful.nesting env (fun _ gone => gone) room

theorem repetition_nesting (room : Nat) :
    repetition.Nesting (nest env room) (nest env room) :=
  repetition_lawful.nesting env (fun _ gone => gone) room

theorem consumes_assign (room : Nat) (effects : Bool) :
    Consumes (assign (nest env room) effects) :=
  frame_left.closed.keeps_assign (frame_left.nesting env room) trivial

theorem sim_assign_continued (room : Nat) (effects : Bool) (met : Continued behind fault s s') :
    (continuation behind fault).Sim Lockstep.never (assign (nest env room) effects)
      (assign (nest env room) effects) s s' ((continuation behind fault).Fine []) :=
  Lockstep.sim_assign continuation_lawful (continuation_nesting env behind fault room) rfl met

/-- Where the row of expressions of the first text ends, the second run is still inside its own
row. -/
theorem commaTail_continued (met : Continued behind fault s s') (last a : Operand)
    (rounds rounds' : List Token) (enough : s'.left ≤ rounds'.length)
    (ran : commaTail (assign (nest env room) effects) rounds last s = (.ok a, t)) :
    ∃ rest u, commaTail (assign (nest env room) effects) rounds' last s' =
        commaTail (assign (nest env room) effects) rest a u ∧
      u.left ≤ rest.length ∧ Continued behind fault t u := by
  -- the two runs take the same rounds until the first one stops
  induction rounds generalizing s s' last rounds' with
  | nil =>
      cases ran
      exact ⟨rounds', s', rfl, enough, met⟩
  | cons round rounds ih =>
      by_cases viewed : s.token = .comma
      · rcases met.same_or_comma with ⟨same, _⟩ | ⟨atEnd, _⟩
        · have viewed' := same.trans viewed
          have more' : s'.token ≠ .finish := by rw [viewed']; exact Token.noConfusion
          obtain ⟨round', rest', rfl⟩ := rounds_of_left enough more'
          rw [commaTail_step viewed] at ran
          obtain ⟨b, u, first, others⟩ := ok_of_bind ran
          have sim := Lockstep.sim_nextExpression continuation_lawful
            (sim_assign_continued env room effects) met same viewed
          rcases sim.ok first with gone | ⟨u', first', _, met⟩
          · exact gone.elim
          · have taken := left_nextExpression_lt (consumes_assign env room effects) more' first'
            simp only [List.length_cons] at enough
            rw [commaTail_step viewed', run_bind_ok first']
            exact ih met b rest' (by omega) others
        · rw [viewed] at atEnd
          cases atEnd
      · rw [commaTail_stop viewed] at ran
        cases ran
        exact ⟨rounds', s', rfl, enough, met⟩

theorem comma_continued (met : Continued behind fault s s') {a : Operand}
    (ran : comma (nest env room) effects s = (.ok a, t)) :
    ∃ rest u, comma (nest env room) effects s' =
        commaTail (assign (nest env room) effects) rest a u ∧
      u.left ≤ rest.length ∧ Continued behind fault t u := by
  obtain ⟨first, u, began, others⟩ := ok_of_bind ran
  rcases (sim_assign_continued env room effects met).ok began with gone | ⟨u', began', _, met⟩
  · exact gone.elim
  · rw [comma, run_bind_ok began', run_bind_ok (run_get u')]
    exact commaTail_continued env met first a u.ahead u'.ahead (left_le_ahead u') others

theorem sim_complete_repeated (alike : Alike s s') (operand : Operand) :
    repetition.Sim Lockstep.never (complete operand) (complete operand) s s' (fun _ => Alike) := by
  have met : repetition.related [] s s' := alike
  apply Lockstep.Sim.peek repetition_lawful met
  · intro _
    cases s.token with
    | finish => exact .of_pure alike
    | _ => exact .of_throw _ alike
  · intro _ gone
    exact gone.elim

/-- The rest of a row behind a comma is evaluated like a text of its own. Only where nothing follows
the comma the error is another one. -/
theorem whole_behind_comma (alike : Alike s s') (rounds : List Token)
    (enough : s'.left ≤ rounds.length) :
    let row : Eval σ Operand := do
      let first ← orMissing .afterComma (assign (nest env room) effects)
      commaTail (assign (nest env room) effects) rounds first
    let alone := whole env room effects s
    let joint := (orMissing .expression row >>= complete) s'
    Alike alone.2 joint.2 ∧
      (joint.1 = alone.1 ∨
        alone.1 = .error (.missing .expression) ∧ joint.1 = .error (.missing .afterComma)) := by
  intro row alone joint
  have first : repetition.Sim Lockstep.never (assign (nest env room) effects)
      (assign (nest env room) effects) s s' (repetition.Fine []) :=
    Lockstep.sim_assign repetition_lawful (repetition_nesting env room) rfl alike
  have consumes := consumes_assign env room effects
  cases ran : assign (nest env room) effects s with
  | mk result t =>
      cases result with
      | error e =>
          rcases first.error ran with excused | ⟨t', ran', alike⟩
          · exact excused.elim
          · have aloneIs : alone = (.error (e.orMissing .expression), t) :=
              run_bind_error (run_orMissing_error (run_bind_error ran))
            have jointIs :
                joint = (.error ((e.orMissing .afterComma).orMissing .expression), t') :=
              run_bind_error (run_orMissing_error (run_bind_error (run_orMissing_error ran')))
            rw [aloneIs, jointIs]
            refine ⟨alike, ?_⟩
            -- only a missing operand is named by whoever looks for it
            cases e with
            | notImplemented => exact .inr ⟨rfl, rfl⟩
            | _ => exact .inl rfl
      | ok a =>
          rcases first.ok ran with gone | ⟨t', ran', fine⟩
          · exact gone.elim
          · -- the row of the second run has rounds to spare, since an expression was taken
            have taken := consumes.left_le ran'
            have tail : repetition.Sim Lockstep.never
                (commaTail (assign (nest env room) effects) t.ahead a)
                (commaTail (assign (nest env room) effects) rounds a) t t' (repetition.Fine []) :=
              Lockstep.sim_commaTail repetition_lawful consumes consumes
                (fun met => Lockstep.sim_assign repetition_lawful (repetition_nesting env room) rfl met)
                a t.ahead rounds fine (left_le_ahead t) (by omega)
            have sim := (tail.orMissing repetition_lawful .expression).bind
              fun b _ _ _ _ fine => sim_complete_repeated fine.2 b
            have outcome := Alike.outcome sim fun _ _ _ alike => alike
            have aloneIs : alone = (orMissing .expression
                (commaTail (assign (nest env room) effects) t.ahead a) >>= complete) t :=
              run_bind_same (run_orMissing_same
                ((run_bind_ok ran).trans (run_bind_ok (run_get t))))
            have jointIs : joint = (orMissing .expression
                (commaTail (assign (nest env room) effects) rounds a) >>= complete) t' :=
              run_bind_same (run_orMissing_same (run_bind_ok (run_orMissing_ok ran')))
            rw [aloneIs, jointIs]
            exact ⟨outcome.2, .inl outcome.1⟩

/-- The longer text behind the first one: its evaluation stands at the comma. -/
theorem whole_continued (met : Continued behind fault s s') {value : Value}
    (ran : whole env room effects s = (.ok value, t)) :
    ∃ a rounds u, whole env room effects s' =
        (orMissing .expression (commaTail (assign (nest env room) effects) rounds a) >>= complete) u ∧
      u.left ≤ rounds.length ∧ Continued behind fault t u := by
  obtain ⟨a, w, began, ended⟩ := ok_of_bind ran
  obtain ⟨rest, u, joined, enough, met⟩ := comma_continued env met (ok_of_orMissing began)
  rw [run_complete] at ended
  split at ended
  · cases ended
    exact ⟨a, rest, u, run_bind_same (run_orMissing_same joined), enough, met⟩
  · cases ended

/-- A text behind the comma of which not even the first token can be read. -/
theorem commaTail_fault {u : Session σ} {broken : LexicalFault} (atComma : u.token = .comma)
    {rounds : List Token} (enough : u.left ≤ rounds.length) (a : Operand)
    (failed : advance u = (.error (.lexical broken), u)) :
    (orMissing .expression (commaTail (assign (nest env room) effects) rounds a) >>= complete) u =
      (.error (.lexical broken), u) := by
  have more : u.token ≠ .finish := by rw [atComma]; exact Token.noConfusion
  obtain ⟨round, rest, rfl⟩ := rounds_of_left enough more
  have row : commaTail (assign (nest env room) effects) (round :: rest) a u =
      (.error (.lexical broken), u) := by
    rw [commaTail_step atComma]
    exact run_bind_error (run_bind_error (run_pass_error failed))
  exact run_bind_error (run_orMissing_error row)

/-- A text behind the comma, compared with the same text alone. -/
theorem commaTail_whole {u v : Session σ} (atComma : u.token = .comma) {rounds : List Token}
    (enough : u.left ≤ rounds.length) (a : Operand) {token : Token}
    (passed : advance u = (.ok token, v)) (alike : Alike s v) :
    let alone := whole env room effects s
    let joint :=
      (orMissing .expression (commaTail (assign (nest env room) effects) rounds a) >>= complete) u
    Alike alone.2 joint.2 ∧
      (joint.1 = alone.1 ∨
        alone.1 = .error (.missing .expression) ∧ joint.1 = .error (.missing .afterComma)) := by
  have more : u.token ≠ .finish := by rw [atComma]; exact Token.noConfusion
  have taken := left_advance_lt more passed
  obtain ⟨round, rest, rfl⟩ := rounds_of_left enough more
  simp only [List.length_cons] at enough
  have row : commaTail (assign (nest env room) effects) (round :: rest) a u =
      (orMissing .afterComma (assign (nest env room) effects) >>=
        commaTail (assign (nest env room) effects) rest) v := by
    rw [commaTail_step atComma]
    exact run_bind_same (run_bind_ok (run_pass_ok passed))
  intro alone joint
  have jointIs : joint = (orMissing .expression (orMissing .afterComma
      (assign (nest env room) effects) >>= commaTail (assign (nest env room) effects) rest) >>=
        complete) v :=
    run_bind_same (run_orMissing_same row)
  rw [jointIs]
  exact whole_behind_comma env alike rest (by omega)

end Sequel

end TemplateCalc.Session

namespace TemplateCalc.Calculator

variable {σ : Type}

/-! ### Whole texts -/

/-- What a calculator keeps of an evaluation: the changes and the wording of the error. -/
theorem evaluate_eq (env : Surroundings σ) (options : EvalOptions) (c : Calculator σ)
    (text : String) :
    (c.evaluate env options text).result = (c.run env options text).result ∧
      (c.evaluate env options text).calculator =
        { vars := (c.run env options text).calculator.vars
          random := (c.run env options text).calculator.random
          dialog := (c.run env options text).calculator.dialog
          lastError :=
            match (c.run env options text).result with
            | .ok _ => none
            | .error e => some (e.shownAs options.legacyMessages) } := by
  unfold evaluate
  simp only
  cases found : (c.run env options text).result with
  | ok value => exact ⟨rfl, rfl⟩
  | error e => exact ⟨rfl, rfl⟩

theorem advance_to_session {c : Calculator σ} {reading : Scan.Reading} {u : Session σ}
    (rest : u.rest = reading.tokens) (fault : u.fault = reading.fault) (vars : u.vars = c.vars)
    (random : u.random = c.random) (dialog : u.dialog = c.dialog) :
    (∃ fault, c.session? reading = .error fault ∧
        Session.advance u = (.error (.lexical fault), u)) ∨
      ∃ s v, c.session? reading = .ok s ∧ Session.advance u = (.ok u.token, v) ∧
        Session.Alike s v := by
  rcases reading with ⟨_ | ⟨token, tokens⟩, broken⟩
  · cases broken with
    | none =>
        exact .inr ⟨_, _, rfl, Session.run_advance_end rest fault, rfl, rfl, fault, vars, random,
          dialog⟩
    | some broken => exact .inl ⟨broken, rfl, Session.run_advance_fault rest fault⟩
  · exact .inr ⟨_, _, rfl, Session.run_advance_cons rest, rfl, rfl, fault, vars, random, dialog⟩

theorem scan_comma {rules : Scan.Rules} (plain : rules.separator = none) {first second : String}
    (readable : (Scan.scan rules first).fault = none) :
    Scan.scan rules (first ++ "," ++ second) =
      ⟨(Scan.scan rules first).tokens ++ .comma :: (Scan.scan rules second).tokens,
        (Scan.scan rules second).fault⟩ := by
  have front := Scan.scan_reads rules first
  rw [readable] at front
  apply Scan.scan_of_reads
  have text : (first ++ "," ++ second).toList = first.toList ++ ',' :: second.toList := by
    simp
  rw [text]
  apply front.append (by decide) plain
  exact .cons (by decide) (fun _ _ => rfl) (Scan.scan_reads rules second)

def opening (c : Calculator σ) (token : Token) (rest : List Token) : Session σ where
  token := token
  rest := rest
  fault := none
  vars := c.vars
  random := c.random
  dialog := c.dialog

theorem session_of_tokens (c : Calculator σ) {reading : Scan.Reading} {token : Token}
    {rest : List Token} (scanned : reading = ⟨token :: rest, none⟩) :
    c.session? reading = .ok (c.opening token rest) := by
  rw [scanned]
  rfl

theorem run_of_session {env : Surroundings σ} {options : EvalOptions} {c : Calculator σ}
    {text : String} {s : Session σ} (opened : c.session? (Scan.scan options.rules text) = .ok s) :
    let ran := Session.whole env options.maxDepth options.sideEffects s
    c.run env options text =
      ⟨ran.1, { c with vars := ran.2.vars, random := ran.2.random, dialog := ran.2.dialog },
        ran.2.journal⟩ := by
  intro ran
  rw [run, opened]
  rfl

theorem run_of_fault {env : Surroundings σ} {options : EvalOptions} {c : Calculator σ}
    {text : String} {fault : LexicalFault}
    (broken : c.session? (Scan.scan options.rules text) = .error fault) :
    c.run env options text = ⟨.error (.lexical fault), c, #[]⟩ := by
  rw [run, broken]

/-- An evaluation with a value starts at a token and reads its text to the end. -/
theorem session_of_ok {env : Surroundings σ} {options : EvalOptions} {c : Calculator σ}
    {text : String} {value : Value} (succeeds : (c.run env options text).result = .ok value) :
    ∃ token rest t, Scan.scan options.rules text = ⟨token :: rest, none⟩ ∧
      Session.whole env options.maxDepth options.sideEffects (c.opening token rest) =
        (.ok value, t) ∧
      (c.run env options text).calculator =
        { c with vars := t.vars, random := t.random, dialog := t.dialog } := by
  have noEnd := (Scan.scan_reads options.rules text).finish_not_mem
  cases scanned : Scan.scan options.rules text with
  | mk tokens fault =>
      rw [scanned] at noEnd
      cases opened : c.session? (Scan.scan options.rules text) with
      | error broken =>
          rw [run_of_fault opened] at succeeds
          cases succeeds
      | ok s =>
          have ran : Session.whole env options.maxDepth options.sideEffects s =
              (.ok value, (Session.whole env options.maxDepth options.sideEffects s).2) := by
            rw [run_of_session opened] at succeeds
            exact Prod.ext succeeds rfl
          have calculator := congrArg Outcome.calculator (@run_of_session _ env _ _ _ _ opened)
          rw [scanned] at opened
          cases tokens with
          | nil =>
              -- there must be a token
              have positive := Session.left_of_whole ran
              cases fault <;> cases opened
              cases positive
          | cons token rest =>
              cases opened
              obtain rfl : fault = none := by
                refine Session.fault_of_whole ?_ ran
                exact noEnd
              exact ⟨token, rest, _, rfl, ran, calculator⟩

/-- The evaluation of two texts divided by a comma, and that of the second one behind the first. -/
theorem run_comma {env : Surroundings σ} {options : EvalOptions} {c one : Calculator σ}
    {first second : String} {value : Value} (plain : options.digitSeparators = false)
    (succeeds : (c.run env options first).result = .ok value)
    (vars : one.vars = (c.run env options first).calculator.vars)
    (random : one.random = (c.run env options first).calculator.random)
    (dialog : one.dialog = (c.run env options first).calculator.dialog) :
    let alone := one.run env options second
    let joint := c.run env options (first ++ "," ++ second)
    (joint.calculator.vars = alone.calculator.vars ∧
        joint.calculator.random = alone.calculator.random ∧
        joint.calculator.dialog = alone.calculator.dialog) ∧
      (joint.result = alone.result ∨
        alone.result = .error (.missing .expression) ∧
          joint.result = .error (.missing .afterComma)) := by
  obtain ⟨token, rest, t, scanned, ran, calculator⟩ := session_of_ok succeeds
  rw [calculator] at vars random dialog
  have noEnd := (Scan.scan_reads options.rules first).finish_not_mem
  have separator : options.rules.separator = none := by
    rw [EvalOptions.rules, plain]
    rfl
  have joined := @scan_comma options.rules separator first second (by rw [scanned])
  rw [scanned] at joined noEnd
  -- the same tokens, with the comma and the second text behind them
  let start : Session σ :=
    { c.opening token (rest ++ .comma :: (Scan.scan options.rules second).tokens) with
      fault := (Scan.scan options.rules second).fault }
  have met : Session.Continued (Scan.scan options.rules second).tokens
      (Scan.scan options.rules second).fault (c.opening token rest) start :=
    ⟨rfl, rfl, rfl, rfl, rfl, .inl ⟨noEnd, rfl⟩⟩
  have opened : c.session? (Scan.scan options.rules (first ++ "," ++ second)) = .ok start := by
    rw [joined]
    rfl
  obtain ⟨a, rounds, u, continues, enough, met⟩ := Session.whole_continued env met ran
  have atEnd := Session.token_of_whole ran
  obtain ⟨atComma, behind⟩ : u.token = .comma ∧ u.rest = (Scan.scan options.rules second).tokens := by
    rcases met.same_or_comma with ⟨_, more, _⟩ | ⟨_, _, atComma, behind⟩
    · exact absurd atEnd more
    · exact ⟨atComma, behind⟩
  rw [run_of_session opened, continues]
  -- behind the comma the second text may not even have a first token
  rcases @advance_to_session _ one (Scan.scan options.rules second) u behind met.fault
      (met.vars.trans vars.symm) (met.random.trans random.symm) (met.dialog.trans dialog.symm) with
    ⟨broken, failed, stopped⟩ | ⟨s, v, opened, passed, alike⟩
  · rw [run_of_fault failed, Session.commaTail_fault env atComma enough a stopped]
    exact ⟨⟨met.vars.trans vars.symm, met.random.trans random.symm, met.dialog.trans dialog.symm⟩,
      .inl rfl⟩
  · rw [run_of_session opened]
    have compared := @Session.commaTail_whole _ _ env options.maxDepth options.sideEffects _ _
      atComma _ enough a _ passed alike
    exact ⟨⟨compared.1.vars, compared.1.random, compared.1.dialog⟩, compared.2⟩

/-- Two texts divided by a comma are evaluated like the first and then the second. Where the second
has no expression at all, the error names the comma. -/
theorem comma_is_sequencing (env : Surroundings σ) (options : EvalOptions) (c : Calculator σ)
    (first second : String) (plain : options.digitSeparators = false) {value : Value}
    (succeeds : (c.evaluate env options first).result = .ok value) :
    let alone := (c.evaluate env options first).calculator.evaluate env options second
    let joint := c.evaluate env options (first ++ "," ++ second)
    (joint.result = alone.result ∧ joint.calculator = alone.calculator) ∨
      (alone.result = .error (.missing .expression) ∧
        joint.result = .error (.missing .afterComma) ∧
        joint.calculator =
          { alone.calculator with
            lastError :=
              some ((EvalError.missing .afterComma).shownAs options.legacyMessages) }) := by
  obtain ⟨ranFirst, calculator⟩ := evaluate_eq env options c first
  rw [ranFirst] at succeeds
  intro alone joint
  obtain ⟨ranAlone, aloneIs⟩ :=
    evaluate_eq env options (c.evaluate env options first).calculator second
  obtain ⟨ranJoint, jointIs⟩ := evaluate_eq env options c (first ++ "," ++ second)
  obtain ⟨⟨vars, random, dialog⟩, results⟩ :=
    @run_comma _ env options c (c.evaluate env options first).calculator first second value plain
      succeeds (by rw [calculator]) (by rw [calculator]) (by rw [calculator])
  rw [ranAlone, aloneIs, ranJoint, jointIs, vars, random, dialog]
  rcases results with same | ⟨missing, missing'⟩
  · rw [same]
    exact .inl ⟨rfl, rfl⟩
  · rw [missing, missing']
    exact .inr ⟨rfl, rfl, rfl⟩

def isInt (n : Int64) : Except EvalError Value → Bool
  | .ok (.int m) => m = n
  | _ => false

theorem eq_of_isInt {n : Int64} {result : Except EvalError Value} (test : isInt n result = true) :
    result = .ok (.int n) := by
  unfold isInt at test
  split at test
  · rw [of_decide_eq_true test]
  · cases test

/-- An assignment, and behind the comma an expression that reads the variable. -/
theorem assignment_before_comma :
    let env : Surroundings Unit := ⟨Host.none, none, 0⟩
    let c : Calculator Unit := { random := Random.ofSeed 0, dialog := () }
    let alone := (c.evaluate env {} "a=2").calculator.evaluate env {} "a*3"
    let joint := c.evaluate env {} ("a=2" ++ "," ++ "a*3")
    (c.evaluate env {} "a=2").result = .ok (.int 2) ∧
      ((joint.result = alone.result ∧ joint.calculator = alone.calculator) ∨
        (alone.result = .error (.missing .expression) ∧
          joint.result = .error (.missing .afterComma) ∧
          joint.calculator =
            { alone.calculator with
              lastError := some ((EvalError.missing .afterComma).shownAs false) })) := by
  intro env c
  have succeeds : (c.evaluate env {} "a=2").result = .ok (.int 2) :=
    eq_of_isInt (by decide +kernel)
  exact ⟨succeeds, comma_is_sequencing env {} c "a=2" "a*3" rfl succeeds⟩

end TemplateCalc.Calculator
