import TemplateCalc.Proofs.Passage.Operand
import TemplateCalc.Proofs.Sequence

/-!
Where the second branch of a conditional ends.

A second branch that is evaluated and one that is passed over should end at the same token. They do
as long as no comma and no assignment stands outside of the brackets of the branch. A conditional
inside of the branch may have such a token in front of its colon, and there passing over stops early.
-/

set_option autoImplicit false

namespace TemplateCalc.Session

variable {σ : Type} {env : Surroundings σ} {room : Nat} {effects : Bool} {s t : Session σ}
  {tokens others : List Token}

def endsBranch : Token → Bool
  | .finish | .closeParen | .closeBracket | .colon | .comma | .assign _ => true
  | _ => false

theorem judge_of_endsBranch {token : Token} {waiting : Nat} (ends : endsBranch token = true)
    (closed : token = .colon → waiting = 0) : judge .second [] waiting token = .halt := by
  cases token with
  | colon => rw [closed rfl]; rfl
  | finish | closeParen | closeBracket | comma | assign _ => rfl
  | _ => cases ends

theorem judge_of_divides {token : Token} (divides : token.divides = true) (waiting : Nat) :
    judge .second [] waiting token = .halt := by
  cases token with
  | comma | assign _ => rfl
  | _ => cases divides

theorem Segment.ne_nil {next : Token} (segment : Segment tokens next) : tokens ≠ [] := by
  obtain ⟨first, rest, rfl, _⟩ := segment.first
  exact List.cons_ne_nil _ _

/-- A row without a token that divides is passed over as a whole. -/
theorem Segment.skip_whole (segment : Segment tokens t.token) (passed : Passed s tokens t)
    (ends : endsBranch t.token = true) (whole : divided [] tokens = false) :
    skipOperand .second s = (.ok (), { s with token := t.token, rest := t.rest }) := by
  obtain ⟨waiting, covers, closed⟩ := segment.matched
  exact run_skipOperand_of_covers passed (covers.second whole) segment.ne_nil
    (judge_of_endsBranch ends (closed whole))

/-- A row that is divided is passed over up to the first token that divides it. -/
theorem Segment.skip_front (segment : Segment tokens t.token) (passed : Passed s tokens t)
    (isDivided : divided [] tokens = true) :
    ∃ u, skipOperand .second s = (.ok (), u) ∧ u.token.divides = true ∧
      (u.token = t.token → u.rest ≠ t.rest) := by
  obtain ⟨waiting, covers, _⟩ := segment.matched
  obtain ⟨front, divider, rest, waiting, rfl, divides, second⟩ := covers.up_to_divider isDivided
  -- a row does not start with a token that divides
  have some : front ≠ [] := by
    rintro rfl
    obtain ⟨first, others, split, plain⟩ := segment.first
    obtain ⟨rfl, _⟩ := List.cons.inj split
    rw [plain] at divides
    cases divides
  have noEnd : .finish ∉ front := second.finish_not_mem
  have stop := judge_of_divides divides waiting
  rcases passed.ahead with here | ⟨readable, here, ended⟩
  · rw [List.append_assoc, List.cons_append] at here
    let u := { s with token := divider, rest := rest ++ t.ahead }
    have reached : Passed s front u := ⟨noEnd, rfl, .inl here⟩
    refine ⟨_, run_skipOperand_of_covers reached second some stop, divides, ?_⟩
    intro _ same
    have lengths := congrArg List.length same
    simp only [u, ahead, List.length_append, List.length_cons] at lengths
    omega
  · let u := { s with token := divider, rest := rest }
    have reached : Passed s front u := ⟨noEnd, rfl, .inl here⟩
    refine ⟨_, run_skipOperand_of_covers reached second some stop, divides, ?_⟩
    intro same
    have atEnd : divider = .finish := same.trans (List.cons.inj ended).1
    rw [atEnd] at divides
    cases divides

/-- A conditional, its question mark in view, both of whose branches can be evaluated. Whether the
first one is evaluated or passed over, the second one starts with the variables of its own. -/
structure Evaluable (env : Surroundings σ) (room : Nat) (effects : Bool) (s u v w x : Session σ)
    (a b : Operand) : Prop where
  asked : s.token = .question
  opened : advance s = (.ok .question, u)
  first : nest env room .comma effects u = (.ok a, v)
  colon : v.token = .colon
  parted : advance { u with token := v.token, rest := v.rest } = (.ok .colon, w)
  second : nest env room .ternary effects w = (.ok b, x)
  ends : endsBranch x.token = true

/-- What bringing the next token into view does depends on the tokens only. -/
theorem advance_with {s' : Session σ} {token : Token} (passed : advance s = (.ok token, t))
    (ahead : s'.ahead = s.ahead) (fault : s'.fault = s.fault) :
    advance s' = (.ok token, { s' with token := t.token, rest := t.rest }) := by
  obtain ⟨sameToken, sameRest⟩ : s'.token = s.token ∧ s'.rest = s.rest := List.cons.inj ahead
  cases others : s.rest with
  | cons next rest =>
      rw [run_advance_cons others] at passed
      cases passed
      rw [run_advance_cons (sameRest.trans others), sameToken]
  | nil =>
      cases broken : s.fault with
      | none =>
          rw [run_advance_end others broken] at passed
          cases passed
          rw [run_advance_end (sameRest.trans others) (fault.trans broken), sameToken]
      | some fault =>
          rw [run_advance_fault others broken] at passed
          cases passed

section Conditional

variable {u v w x : Session σ} {a b : Operand}

/-- The branch that is not evaluated is passed over up to the place where its evaluation ends, if no
token divides the branches. -/
theorem Evaluable.skips (both : Evaluable env room effects s u v w x a b) :
    ∃ first second, Passed u first v ∧ Passed w second x ∧
      (divided [] first = false → divided [] second = false →
        (∃ y, conditional (nest env room) effects { value := .bool true } s =
            (.ok { value := a.value }, y) ∧ y.token = x.token ∧ y.rest = x.rest) ∧
          conditional (nest env room) effects { value := .bool false } s =
            (.ok { value := b.value }, x)) := by
  have parsing := parsing_nest env room
  obtain ⟨first, passed, segment⟩ := parsing.segment .comma effects u a v both.first
  obtain ⟨second, passed', segment'⟩ := parsing.segment .ternary effects w b x both.second
  refine ⟨first, second, passed, passed', fun whole whole' => ⟨?_, ?_⟩⟩
  · -- the second branch, passed over from behind the colon
    let v' := { v with token := w.token, rest := w.rest }
    have colon : advance v = (.ok .colon, v') := advance_with both.parted rfl passed.fault
    have fault : w.fault = v'.fault := by
      obtain ⟨_, _, moved⟩ := advance_state { u with token := v.token, rest := v.rest }
      rw [both.parted] at moved
      exact (congrArg Session.fault moved).trans passed.fault.symm
    let y := { v' with token := x.token, rest := x.rest }
    have reached : Passed v' second y := by
      refine ⟨passed'.finish_not_mem, rfl, ?_⟩
      rw [← fault]
      exact passed'.ahead
    have ended : Segment second y.token := segment'
    exact ⟨y, conditional_first both.asked both.opened both.first both.colon colon
      (ended.skip_whole reached both.ends whole'), rfl, rfl⟩
  · obtain ⟨waiting, covers, closed⟩ := segment.matched
    have stop : judge .first [] waiting v.token = .halt := by
      rw [both.colon, closed whole both.colon]
      rfl
    have skipped := run_skipOperand_of_covers passed covers segment.ne_nil stop
    rw [conditional_second both.asked both.opened skipped both.colon both.parted,
      run_bind_ok (run_orMissing_ok both.second)]
    rfl

end Conditional

/-- Behind a question mark it does not matter which branch is taken. A second branch that can be
evaluated can be passed over as well, and both end at the same token if and only if no comma and no
assignment stands outside of the brackets of the branch. A conditional with two such branches is
therefore accepted whatever its condition is, and ends at the same token. -/
theorem undivided_branch_is_skipped_as_evaluated (env : Surroundings σ) (room : Nat)
    (effects : Bool) :
    (∀ {s t : Session σ} {a : Operand}, ternary (nest env room) effects s = (.ok a, t) →
      endsBranch t.token = true →
      ∃ tokens, Passed s tokens t ∧ (∃ u, skipOperand .second s = (.ok (), u)) ∧
        (skipOperand .second s = (.ok (), { s with token := t.token, rest := t.rest }) ↔
          divided [] tokens = false)) ∧
    (∀ {s u v w x : Session σ} {a b : Operand}, Evaluable env room effects s u v w x a b →
      ∃ first second, Passed u first v ∧ Passed w second x ∧
        (divided [] first = false → divided [] second = false →
          (∃ y, conditional (nest env room) effects { value := .bool true } s =
              (.ok { value := a.value }, y) ∧ y.token = x.token ∧ y.rest = x.rest) ∧
            conditional (nest env room) effects { value := .bool false } s =
              (.ok { value := b.value }, x))) := by
  refine ⟨?_, fun both => both.skips⟩
  intro s t a ran ends
  obtain ⟨tokens, passed, segment⟩ := segmented_ternary (parsing_nest env room) s a t ran
  refine ⟨tokens, passed, ?_⟩
  cases whole : divided [] tokens with
  | false =>
      have skipped := segment.skip_whole passed ends whole
      exact ⟨⟨_, skipped⟩, fun _ => rfl, fun _ => skipped⟩
  | true =>
      obtain ⟨u, skipped, _, elsewhere⟩ := segment.skip_front passed whole
      refine ⟨⟨u, skipped⟩, fun same => ?_, Bool.noConfusion⟩
      rw [skipped] at same
      cases same
      exact absurd rfl (elsewhere rfl)

/-- A run whose result passes a test. -/
theorem ok_of_any {α τ : Type} {run : Except EvalError α × τ} {test : α → Bool}
    (passes : run.1.toOption.any test = true) : ∃ a, test a = true ∧ run = (.ok a, run.2) := by
  rcases run with ⟨_ | a, t⟩
  · cases passes
  · exact ⟨a, passes, rfl⟩

section Row

variable {s t : Session σ} {tokens : List Token}

theorem Passed.eq_ahead (passed : Passed s tokens t) (unread : .finish ∉ s.ahead)
    (ended : t.left = 0) : tokens = s.ahead := by
  rcases passed.ahead with here | ⟨_, here, _⟩
  · have atEnd : t.token = .finish := by
      refine Classical.byContradiction fun more => ?_
      exact absurd ended (Nat.pos_iff_ne_zero.mp (left_pos more))
    refine absurd ?_ unread
    rw [here, Session.ahead, atEnd]
    exact List.mem_append_right _ List.mem_cons_self
  · exact here.symm

/-- What stands around the colon of two branches that can be evaluated. -/
theorem Evaluable.rows {env : Surroundings σ} {room : Nat} {effects : Bool} {u v w x : Session σ}
    {a b : Operand} {first front rest : List Token} {next : Token}
    (both : Evaluable env room effects s u v w x a b) (passed : Passed u first v)
    (around : u.ahead = front ++ .colon :: next :: rest)
    (behind : v.ahead.length = rest.length + 2) : first = front ∧ w.ahead = next :: rest := by
  rcases passed.ahead with here | ⟨_, _, ended⟩
  · have sides : first ++ v.ahead = front ++ .colon :: next :: rest := here.symm.trans around
    obtain ⟨same, remaining⟩ := List.append_inj' sides behind
    have moved : ({ u with token := v.token, rest := v.rest } : Session σ).rest = next :: rest :=
      (List.cons.inj remaining).2
    have parted := both.parted
    rw [run_advance_cons moved] at parted
    obtain ⟨_, rfl⟩ := Prod.mk.inj parted
    exact ⟨same, rfl⟩
  · have colon := both.colon
    rw [(List.cons.inj ended).1] at colon
    cases colon

end Row

/-- Rows with a comma in brackets, and with a conditional behind the colon. -/
theorem nested_rows_are_skipped :
    let env : Surroundings Unit := ⟨Host.none, none, 0⟩
    let c : Calculator Unit := { random := Random.ofSeed 0, dialog := () }
    let pair (m n : Int64) : List Token := [.openParen, .int m, .comma, .int n, .closeParen]
    let row : Session Unit :=
      c.opening (.word "false") (.question :: .int 1 :: .colon :: pair 2 3)
    let s : Session Unit := c.opening .question (pair 0 1 ++ .colon :: row.ahead)
    (∃ t, Passed row row.ahead t ∧
      skipOperand .second row = (.ok (), { row with token := t.token, rest := t.rest })) ∧
    ∃ u v w x a b, Evaluable env 64 true s u v w x a b ∧ Passed u (pair 0 1) v ∧
      Passed w row.ahead x ∧
      (∃ y, conditional (nest env 64) true { value := .bool true } s =
          (.ok { value := a.value }, y) ∧ y.token = x.token ∧ y.rest = x.rest) ∧
        conditional (nest env 64) true { value := .bool false } s =
          (.ok { value := b.value }, x) := by
  intro env c pair row s
  have ⟨alone, among⟩ := undivided_branch_is_skipped_as_evaluated env 64 true
  have unread : .finish ∉ row.ahead := by simp [row, pair, ahead, Calculator.opening]
  have whole : divided [] row.ahead = false := by decide +kernel
  constructor
  · obtain ⟨a, _, ran⟩ : ∃ a, (fun _ => true) a = true ∧ ternary (nest env 64) true row = _ :=
      ok_of_any (by decide +kernel)
    obtain ⟨tokens, passed, _, skips⟩ := alone ran (by decide +kernel)
    obtain rfl := passed.eq_ahead unread (by decide +kernel)
    exact ⟨_, passed, skips.mpr whole⟩
  · let u : Session Unit := (advance s).2
    let v := (nest env 64 .comma true u).2
    let w := (advance { u with token := v.token, rest := v.rest }).2
    obtain ⟨a, _, first⟩ : ∃ a, (fun _ => true) a = true ∧ nest env 64 .comma true u = _ :=
      ok_of_any (by decide +kernel)
    obtain ⟨token, isColon, parted⟩ : ∃ token, isColon token = true ∧
        advance { u with token := v.token, rest := v.rest } = _ := ok_of_any (by decide +kernel)
    obtain ⟨b, _, second⟩ : ∃ b, (fun _ => true) b = true ∧ nest env 64 .ternary true w = _ :=
      ok_of_any (by decide +kernel)
    have both : Evaluable env 64 true s u v w _ a b :=
      ⟨rfl, rfl, first, token_of_isColon (by decide +kernel), token_of_isColon isColon ▸ parted,
        second, by decide +kernel⟩
    obtain ⟨rows, rows', passed, passed', holds⟩ := among both
    -- the rows are what was evaluated, up to the colon and up to the end
    obtain ⟨rfl, next⟩ : rows = pair 0 1 ∧ w.ahead = row.ahead :=
      both.rows passed rfl (by decide +kernel)
    rw [← next] at unread
    obtain rfl : rows' = row.ahead :=
      (passed'.eq_ahead unread (by decide +kernel)).trans next
    exact ⟨u, v, w, _, a, b, both, passed, passed', holds (by decide +kernel) whole⟩

/-- A comma in front of the colon of a nested conditional. The branch can be evaluated, but passing
over it stops at the comma; so the conditional around it is refused if its condition holds. -/
theorem comma_in_front_of_nested_colon :
    let env : Surroundings Unit := ⟨Host.none, none, 0⟩
    let c : Calculator Unit := { random := Random.ofSeed 0, dialog := () }
    let s : Session Unit :=
      c.opening (.word "true") [.question, .int 2, .comma, .int 3, .colon, .int 4]
    let t := (ternary (nest env 64) true s).2
    (∃ a, ternary (nest env 64) true s = (.ok a, t)) ∧ endsBranch t.token = true ∧
      skipOperand .second s ≠ (.ok (), { s with token := t.token, rest := t.rest }) ∧
      (c.evaluate env {} "false ? 1 : true ? 2, 3 : 4").result = .ok (.int 3) ∧
      (c.evaluate env {} "true ? 1 : true ? 2, 3 : 4").calculator.lastError =
        some "Unexpected : after end of expression" := by
  intro env c s t
  obtain ⟨a, _, ran⟩ : ∃ a, (fun _ => true) a = true ∧ ternary (nest env 64) true s = _ :=
    ok_of_any (by decide +kernel)
  refine ⟨⟨a, ran⟩, by decide +kernel, ?_, Calculator.eq_of_isInt (by decide +kernel),
    by decide +kernel⟩
  intro same
  have lengths := congrArg (fun run => run.2.rest.length) same
  revert lengths
  decide +kernel

end TemplateCalc.Session
