import TemplateCalc.Proofs.Lockstep.Basic
import TemplateCalc.Proofs.Passage.Basic

/-!
The colon of a conditional.

Rows of tokens are described by a grammar: one for what can stand in brackets, and one for what can
stand in front of a colon, where every question mark outside of all brackets has a colon of its own.
Passing over a first branch follows this grammar with a stack and a number only.
-/

set_option autoImplicit false

namespace TemplateCalc.Session

inductive WellBracketed : List Token → Prop where
  | nil : WellBracketed []
  | plain {token : Token} {tokens : List Token} (plain : isPlain token = true)
      (behind : WellBracketed tokens) : WellBracketed (token :: tokens)
  | enclosed {tokens others : List Token} (b : Bracket) (inner : WellBracketed tokens)
      (behind : WellBracketed others) :
      WellBracketed (b.opening :: (tokens ++ b.closing :: others))

/-- Such rows in which, outside of all brackets, every colon is paired with an earlier question mark
and every question mark with a later colon. -/
inductive Paired : List Token → Prop where
  | nil : Paired []
  | plain {token : Token} {tokens : List Token} (plain : isPlain token = true)
      (noQuestion : token ≠ .question) (noColon : token ≠ .colon) (behind : Paired tokens) :
      Paired (token :: tokens)
  | enclosed {tokens others : List Token} (b : Bracket) (inner : WellBracketed tokens)
      (behind : Paired others) : Paired (b.opening :: (tokens ++ b.closing :: others))
  | pair {tokens others : List Token} (between : Paired tokens) (behind : Paired others) :
      Paired (.question :: (tokens ++ .colon :: others))

/-- Rows that leave these brackets open, innermost first, and so many question marks without a colon
outside of all brackets. -/
inductive Leaves : List Bracket → Nat → List Token → Prop where
  | row {tokens : List Token} (paired : Paired tokens) : Leaves [] 0 tokens
  | question {pending : Nat} {tokens others : List Token} (before : Leaves [] pending tokens)
      (behind : Paired others) : Leaves [] (pending + 1) (tokens ++ .question :: others)
  | bracket {brackets : List Bracket} {pending : Nat} {tokens others : List Token}
      (before : Leaves brackets pending tokens) (b : Bracket) (behind : WellBracketed others) :
      Leaves (b :: brackets) pending (tokens ++ b.opening :: others)

variable {b : Bracket} {brackets opened : List Bracket} {pending waiting : Nat} {token : Token}
  {tokens others : List Token}

/-! ### Rows put together -/

theorem WellBracketed.append (first : WellBracketed tokens) (second : WellBracketed others) :
    WellBracketed (tokens ++ others) := by
  induction first with
  | nil => exact second
  | plain plain _ ih => exact .plain plain ih
  | enclosed b inner _ _ ih =>
      rw [List.cons_append, List.append_assoc]
      exact .enclosed b inner ih

theorem Paired.append (first : Paired tokens) (second : Paired others) :
    Paired (tokens ++ others) := by
  induction first with
  | nil => exact second
  | plain plain noQuestion noColon _ ih => exact .plain plain noQuestion noColon ih
  | enclosed b inner _ ih =>
      rw [List.cons_append, List.append_assoc]
      exact .enclosed b inner ih
  | pair between _ _ ih =>
      rw [List.cons_append, List.append_assoc]
      exact .pair between ih

theorem Paired.wellBracketed (paired : Paired tokens) : WellBracketed tokens := by
  induction paired with
  | nil => exact .nil
  | plain plain _ _ _ ih => exact .plain plain ih
  | enclosed b inner _ ih => exact .enclosed b inner ih
  | pair _ _ ihBetween ihBehind =>
      exact .plain rfl (ihBetween.append (.plain rfl ihBehind))

theorem Leaves.wellBracketed (leaves : Leaves [] pending tokens) : WellBracketed tokens := by
  generalize none : ([] : List Bracket) = brackets at leaves
  induction leaves with
  | row paired => exact paired.wellBracketed
  | question _ behind ih => exact (ih rfl).append (.plain rfl behind.wellBracketed)
  | bracket => cases none

theorem Leaves.paired (leaves : Leaves [] 0 tokens) : Paired tokens := by
  cases leaves with
  | row paired => exact paired

/-- A paired row leaves open what was open in front of it. -/
theorem Leaves.extend (leaves : Leaves brackets pending tokens) (paired : Paired others) :
    Leaves brackets pending (tokens ++ others) := by
  cases leaves with
  | row first => exact .row (first.append paired)
  | question before behind =>
      rw [List.append_assoc]
      exact .question before (behind.append paired)
  | bracket before b behind =>
      rw [List.append_assoc]
      exact .bracket before b (behind.append paired.wellBracketed)

/-- Inside of a bracket question marks and colons need not be paired. -/
theorem Leaves.extend_inside (leaves : Leaves (b :: brackets) pending tokens)
    (inner : WellBracketed others) : Leaves (b :: brackets) pending (tokens ++ others) := by
  cases leaves with
  | bracket before b behind =>
      rw [List.append_assoc]
      exact .bracket before b (behind.append inner)

/-! ### Passing over follows the grammar -/

theorem Leaves.close (leaves : Leaves (b :: brackets) pending tokens) :
    Leaves brackets pending (tokens ++ [b.closing]) := by
  cases leaves with
  | bracket before b behind =>
      rw [List.append_assoc]
      exact before.extend (.enclosed b behind .nil)

theorem Leaves.pass_colon (leaves : Leaves [] (pending + 1) tokens) :
    Leaves [] pending (tokens ++ [.colon]) := by
  cases leaves with
  | question before behind =>
      rw [List.append_assoc]
      exact before.extend (.pair behind .nil)

theorem Leaves.pass_plain (leaves : Leaves brackets pending tokens) (plain : isPlain token = true)
    (noQuestion : token ≠ .question) (noColon : token ≠ .colon) :
    Leaves brackets pending (tokens ++ [token]) :=
  leaves.extend (.plain plain noQuestion noColon .nil)

theorem pass_of_judgeClosing {kind : Bracket}
    (verdict : judgeClosing kind pending brackets = .pass opened waiting) :
    brackets = kind :: opened ∧ waiting = pending := by
  cases brackets with
  | nil => cases verdict
  | cons b brackets =>
      rw [judgeClosing] at verdict
      split at verdict
      · rename_i fits
        cases verdict
        exact ⟨by rw [fits], rfl⟩
      · cases verdict

/-- The open brackets and the pending question marks are those of the row that was passed over. -/
theorem Leaves.pass (leaves : Leaves brackets pending tokens)
    (verdict : judge .first brackets pending token = .pass opened waiting) :
    Leaves opened waiting (tokens ++ [token]) := by
  -- brackets and marks each have a rule of their own, all others are plain
  cases token with
  | openParen =>
      cases verdict
      exact .bracket leaves .paren .nil
  | openBracket =>
      cases verdict
      exact .bracket leaves .square .nil
  | closeParen =>
      obtain ⟨rfl, rfl⟩ := pass_of_judgeClosing verdict
      exact leaves.close
  | closeBracket =>
      obtain ⟨rfl, rfl⟩ := pass_of_judgeClosing verdict
      exact leaves.close
  | question =>
      cases verdict
      cases brackets with
      | nil => exact .question leaves .nil
      | cons b brackets => exact leaves.extend_inside (.plain rfl .nil)
  | colon =>
      cases brackets with
      | nil =>
          cases pending with
          | zero => cases verdict
          | succ pending =>
              cases verdict
              exact leaves.pass_colon
      | cons b brackets =>
          cases verdict
          exact leaves.extend_inside (.plain rfl .nil)
  | comma | assign _ =>
      cases brackets <;> cases verdict <;>
        exact leaves.pass_plain rfl Token.noConfusion Token.noConfusion
  | finish => cases brackets <;> cases verdict
  | _ =>
      cases verdict
      exact leaves.pass_plain rfl Token.noConfusion Token.noConfusion

theorem Leaves.covers (leaves : Leaves brackets pending tokens)
    (covers : Covers .first others (brackets, pending) (opened, waiting)) :
    Leaves opened waiting (tokens ++ others) := by
  induction others generalizing brackets pending tokens with
  | nil =>
      cases covers
      rwa [List.append_nil]
  | cons token others ih =>
      obtain ⟨⟨between, left⟩, moved, tail⟩ := covers_cons.mp covers
      have passed := ih (leaves.pass (passOver_eq_some.mp moved)) tail
      rwa [List.append_assoc] at passed

theorem leaves_of_covers (covers : Covers .first tokens ([], 0) (opened, waiting)) :
    Leaves opened waiting tokens :=
  (Leaves.row .nil).covers covers

/-! ### Rows of the grammar are passed over -/

theorem WellBracketed.nested (row : WellBracketed tokens) (brackets : List Bracket) :
    tokens.foldlM bracketsBehind brackets = some brackets := by
  induction row generalizing brackets with
  | nil => rfl
  | @plain token _ plain _ ih =>
      have stays : bracketsBehind brackets token = some brackets := by
        cases token <;> first | rfl | cases plain
      rw [List.foldlM_cons, stays]
      exact ih brackets
  | @enclosed tokens others b _ _ ihInner ihBehind =>
      have opens : bracketsBehind brackets b.opening = some (b :: brackets) := by cases b <;> rfl
      have closes : bracketsBehind (b :: brackets) b.closing = some brackets := by cases b <;> rfl
      rw [List.foldlM_cons, opens, Option.bind_eq_bind, Option.bind_some, List.foldlM_append,
        ihInner, Option.bind_eq_bind, Option.bind_some, List.foldlM_cons, closes]
      exact ihBehind brackets

theorem WellBracketed.finish_not_mem (row : WellBracketed tokens) : .finish ∉ tokens := by
  induction row with
  | nil => exact List.not_mem_nil
  | @plain token _ plain _ ih =>
      have more : Token.finish ≠ token := by
        rintro rfl
        cases plain
      exact List.not_mem_cons_of_ne_of_not_mem more ih
  | enclosed b _ _ ihInner ihBehind =>
      have opens : Token.finish ≠ b.opening := by cases b <;> exact Token.noConfusion
      have closes : Token.finish ≠ b.closing := by cases b <;> exact Token.noConfusion
      simp [opens, closes, ihInner, ihBehind]

theorem covers_enclosed (inner : WellBracketed tokens) (b : Bracket) (pending : Nat) :
    Covers .first (b.opening :: (tokens ++ [b.closing])) ([], pending) ([], pending) := by
  have opens : judge .first [] pending b.opening = .pass [b] pending := by cases b <;> rfl
  have closes : judge .first [b] pending b.closing = .pass [] pending := by cases b <;> rfl
  have between : Covers .first tokens ([b], pending) ([b], pending) :=
    covers_inside (inner.nested []) inner.finish_not_mem (List.cons_ne_nil b []) .first pending
  exact (covers_single opens).append (between.append (covers_single closes))

theorem Paired.covers (paired : Paired tokens) (pending : Nat) :
    Covers .first tokens ([], pending) ([], pending) := by
  induction paired generalizing pending with
  | nil => exact .nil
  | @plain token tokens plain noQuestion noColon _ ih =>
      have stays : judge .first [] pending token = .pass [] pending := by
        cases token with
        | question => exact absurd rfl noQuestion
        | colon => exact absurd rfl noColon
        | openParen | closeParen | openBracket | closeBracket | finish => cases plain
        | _ => rfl
      exact (covers_single stays).append (ih pending)
  | @enclosed tokens others b inner _ ih =>
      have joined := (covers_enclosed inner b pending).append (ih pending)
      simpa using joined
  | @pair tokens others _ _ ihBetween ihBehind =>
      have asks : judge .first [] pending .question = .pass [] (pending + 1) := rfl
      have answers : judge .first [] (pending + 1) .colon = .pass [] pending := rfl
      have joined := ((covers_single asks).append (ihBetween (pending + 1))).append
        ((covers_single answers).append (ihBehind pending))
      simpa using joined

/-! ### Where passing over ends -/

theorem halt_cases (verdict : judge .first [] pending token = .halt) :
    token = .finish ∨ (∃ b : Bracket, token = b.closing) ∨ token = .colon ∧ pending = 0 := by
  cases token with
  | finish => exact .inl rfl
  | closeParen => exact .inr (.inl ⟨.paren, rfl⟩)
  | closeBracket => exact .inr (.inl ⟨.square, rfl⟩)
  | colon =>
      cases pending with
      | zero => exact .inr (.inr ⟨rfl, rfl⟩)
      | succ pending => cases verdict
  | _ => cases verdict

def Clashes (b : Bracket) (token : Token) : Prop :=
  token = .finish ∨ ∃ kind : Bracket, kind ≠ b ∧ token = kind.closing

theorem refuse_of_judgeClosing {kind : Bracket}
    (verdict : judgeClosing kind pending brackets = .refuse b) :
    (∃ outer, brackets = b :: outer) ∧ Clashes b kind.closing := by
  cases brackets with
  | nil => cases verdict
  | cons first brackets =>
      rw [judgeClosing] at verdict
      split at verdict
      · cases verdict
      · rename_i other
        cases verdict
        exact ⟨⟨brackets, rfl⟩, .inr ⟨kind, fun same => other same.symm, rfl⟩⟩

theorem refuse_cases (verdict : judge .first brackets pending token = .refuse b) :
    (∃ outer, brackets = b :: outer) ∧ Clashes b token := by
  cases token with
  | finish =>
      cases brackets with
      | nil => cases verdict
      | cons first brackets =>
          cases verdict
          exact ⟨⟨brackets, rfl⟩, .inl rfl⟩
  | closeParen => exact refuse_of_judgeClosing verdict
  | closeBracket => exact refuse_of_judgeClosing verdict
  | colon =>
      cases brackets with
      | nil =>
          rw [judge] at verdict
          split at verdict
          · cases verdict
          · split at verdict <;> cases verdict
      | cons first brackets => cases verdict
  | comma | assign _ => cases brackets <;> cases verdict
  | _ => cases verdict

theorem unclosed_inj {b c : Bracket} (same : b.unclosed = c.unclosed) : b = c := by
  cases b <;> cases c <;> first | rfl | cases same

/-- A bracket is reported only where a token clashes with it or belongs to the branch. -/
theorem clash_or_pass {fault : Option LexicalFault} {skipped : Bool} {rest : List Token}
    (failed : skipBranch .first fault brackets pending skipped token rest = .error b.unclosed) :
    (∃ outer, brackets = b :: outer ∧ Clashes b token) ∨
      ∃ opened waiting, judge .first brackets pending token = .pass opened waiting := by
  cases verdict : judge .first brackets pending token with
  | halt =>
      rw [skipBranch_halt verdict] at failed
      cases skipped <;> cases b <;> cases failed
  | refuse c =>
      rw [skipBranch_refuse verdict] at failed
      obtain rfl := unclosed_inj (Except.error.inj failed)
      obtain ⟨⟨outer, rfl⟩, clashes⟩ := refuse_cases verdict
      exact .inl ⟨outer, rfl, clashes⟩
  | pass opened waiting => exact .inr ⟨opened, waiting, rfl⟩

/-- A bracket is reported in front of a token that clashes with it or behind the last token. -/
theorem covers_of_unclosed {fault : Option LexicalFault} {skipped : Bool} {rest : List Token}
    (failed : skipBranch .first fault brackets pending skipped token rest = .error b.unclosed) :
    ∃ tokens outer waiting, Covers .first tokens (brackets, pending) (b :: outer, waiting) ∧
      ((∃ next others, token :: rest = tokens ++ next :: others ∧ Clashes b next) ∨
        fault = none ∧ token :: rest = tokens) := by
  -- the induction goes along the row: a token ends the branch, clashes or is passed over
  induction rest generalizing brackets pending skipped token with
  | nil =>
      rcases clash_or_pass failed with ⟨outer, rfl, clashes⟩ | ⟨opened, waiting, verdict⟩
      · exact ⟨[], outer, pending, .nil, .inl ⟨token, [], rfl, clashes⟩⟩
      · rw [skipBranch_pass_nil verdict] at failed
        cases fault with
        | some fault => cases b <;> cases failed
        | none =>
            cases opened with
            | nil => cases failed
            | cons c outer =>
                obtain rfl := unclosed_inj (Except.error.inj failed)
                exact ⟨[token], outer, waiting, covers_single verdict, .inr ⟨rfl, rfl⟩⟩
  | cons next rest ih =>
      rcases clash_or_pass failed with ⟨outer, rfl, clashes⟩ | ⟨opened, waiting, verdict⟩
      · exact ⟨[], outer, pending, .nil, .inl ⟨token, next :: rest, rfl, clashes⟩⟩
      · rw [skipBranch_pass_cons verdict] at failed
        obtain ⟨tokens, outer, left, covers, place⟩ := ih failed
        refine ⟨token :: tokens, outer, left, (covers_single verdict).append covers, ?_⟩
        rcases place with ⟨found, others, split, clashes⟩ | ⟨readable, split⟩
        · exact .inl ⟨found, others, by rw [split, List.cons_append], clashes⟩
        · exact .inr ⟨readable, by rw [split]⟩

section States

variable {σ : Type} {s t : Session σ}

theorem leaves_of_skipOperand (ran : skipOperand .first s = (.ok (), t)) :
    ∃ tokens waiting, tokens ≠ [] ∧ Leaves [] waiting tokens ∧ Passed s tokens t ∧
      (t.token = .finish ∨ (∃ b : Bracket, t.token = b.closing) ∨
        t.token = .colon ∧ waiting = 0) := by
  obtain ⟨tokens, waiting, passed, covers, stop⟩ := covers_of_skipOperand ran
  refine ⟨tokens, waiting, ?_, leaves_of_covers covers, passed, halt_cases stop⟩
  rintro rfl
  -- a branch that ends in front of its first token is refused
  cases covers
  rcases passed.ahead with here | ⟨_, impossible, _⟩
  · have same : s.token = t.token := (List.cons.inj here).1
    rw [← same] at stop
    rw [run_skipOperand, skipBranch_halt stop] at ran
    cases ran
  · cases impossible

theorem leaves_of_unclosed (failed : skipOperand .first s = (.error b.unclosed, t)) :
    ∃ tokens outer waiting u, Leaves (b :: outer) waiting tokens ∧ Passed s tokens u ∧
      Clashes b u.token := by
  rw [run_skipOperand] at failed
  split at failed
  · cases failed
  rename_i e refused
  obtain rfl : e = b.unclosed := Except.error.inj (Prod.mk.inj failed).1
  obtain ⟨tokens, outer, waiting, covers, place⟩ := covers_of_unclosed refused
  rcases place with ⟨next, others, split, clashes⟩ | ⟨readable, split⟩
  · exact ⟨tokens, outer, waiting, { s with token := next, rest := others },
      leaves_of_covers covers, ⟨covers.finish_not_mem, rfl, .inl split⟩, clashes⟩
  · exact ⟨tokens, outer, waiting, { s with token := .finish, rest := [] },
      leaves_of_covers covers, ⟨covers.finish_not_mem, rfl, .inr ⟨readable, split, rfl⟩⟩, .inl rfl⟩

theorem skipOperand_of_paired {row others : List Token} (paired : Paired row) (some : row ≠ [])
    (ahead : s.ahead = row ++ .colon :: others) :
    skipOperand .first s = (.ok (), { s with token := .colon, rest := others }) := by
  let t := { s with token := Token.colon, rest := others }
  have passed : Passed s row t := ⟨paired.wellBracketed.finish_not_mem, rfl, .inl ahead⟩
  exact run_skipOperand_of_covers passed (paired.covers 0) some rfl

/-- A first branch is passed over up to the colon of its question mark. -/
theorem first_branch_ends_at_matching_colon :
    (∀ (s : Session σ) (row others : List Token), row ≠ [] → Paired row →
      s.ahead = row ++ .colon :: others →
      skipOperand .first s = (.ok (), { s with token := .colon, rest := others })) ∧
    (∀ s t : Session σ, skipOperand .first s = (.ok (), t) →
      ∃ row, row ≠ [] ∧ WellBracketed row ∧ Passed s row t ∧
        t = { s with token := t.token, rest := t.rest } ∧
        (t.token = .finish ∨ (∃ b : Bracket, t.token = b.closing) ∨
          t.token = .colon ∧ Paired row)) ∧
    (∀ (s t : Session σ) (b : Bracket), skipOperand .first s = (.error b.unclosed, t) →
      ∃ row outer waiting u, Leaves (b :: outer) waiting row ∧ Passed s row u ∧
        Clashes b u.token) ∧
    Bracket.paren.unclosed.message = "Closing parenthesis expected" ∧
    Bracket.square.unclosed.message = "Closing bracket (]) expected" := by
  refine ⟨?_, ?_, ?_, rfl, rfl⟩
  · intro s row others some paired ahead
    exact skipOperand_of_paired paired some ahead
  · intro s t ran
    obtain ⟨row, waiting, some, leaves, passed, stop⟩ := leaves_of_skipOperand ran
    obtain ⟨token, rest, moved⟩ := skipOperand_state .first s
    rw [ran] at moved
    have state : t = { s with token := t.token, rest := t.rest } := by
      rw [show t = _ from moved]
    refine ⟨row, some, leaves.wellBracketed, passed, state, ?_⟩
    rcases stop with atEnd | closes | ⟨isColon, rfl⟩
    · exact .inl atEnd
    · exact .inr (.inl closes)
    · exact .inr (.inr ⟨isColon, leaves.paired⟩)
  · intro s t b failed
    exact leaves_of_unclosed failed

/-- A colon and a question mark in brackets, which are not paired, and a bracket that is closed by
one of the other kind. -/
theorem unpaired_marks_in_brackets :
    let others : List Token := [.int 2, .colon]
    let row : List Token :=
      [.openBracket, .colon, .closeBracket, .question, .openParen, .question, .closeParen, .colon]
    let state (token : Token) (rest : List Token) : Session Unit :=
      ⟨token, rest, none, .empty, .ofSeed 0, (), 0, #[]⟩
    let s := state .openBracket (row.tail ++ .colon :: others)
    let t := state .openParen [.openBracket, .question, .closeParen]
    (row ≠ [] ∧ Paired row ∧ s.ahead = row ++ .colon :: others) ∧
      skipOperand .first s = (.ok (), { s with token := .colon, rest := others }) ∧
      (∃ row, row ≠ [] ∧ Paired row ∧ Passed s row { s with token := .colon, rest := others }) ∧
      skipOperand .first t = (.error Bracket.square.unclosed, t) ∧
      ∃ row outer waiting u, Leaves (.square :: outer) waiting row ∧ Passed t row u ∧
        Clashes .square u.token := by
  intro others row state s t
  have ⟨matching, ended, unclosed, _⟩ := @first_branch_ends_at_matching_colon Unit
  have paired : Paired row :=
    .enclosed .square (.plain rfl .nil) (.pair (.enclosed .paren (.plain rfl .nil) .nil) .nil)
  have some : row ≠ [] := List.cons_ne_nil _ _
  have ran : skipOperand .first s = (.ok (), { s with token := .colon, rest := others }) :=
    matching s row others some paired rfl
  have failed : skipOperand .first t = (.error Bracket.square.unclosed, t) := rfl
  refine ⟨⟨some, paired, rfl⟩, ran, ?_, failed, unclosed t t .square failed⟩
  obtain ⟨row', some', _, passed, _, atEnd | ⟨b, closes⟩ | ⟨_, paired'⟩⟩ := ended s _ ran
  · cases atEnd
  · cases b <;> cases closes
  · exact ⟨row', some', paired', passed⟩

end States

end TemplateCalc.Session
