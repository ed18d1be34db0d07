import TemplateCalc.Proofs.Nesting

/-!
Tokens that are passed over.

Between two states of a run lies a row of tokens. A branch that is passed over is such a row, read
with the brackets that are open and with the number of question marks that have no colon yet. The row
is followed here without the state, so that it can be put together from parts, enclosed in brackets
and compared for the two kinds of branches.
-/

set_option autoImplicit false

namespace TemplateCalc

/-- Whether a token divides expressions or assigns. Outside of all brackets such a token ends the
second branch of a conditional. -/
def Token.divides : Token → Bool
  | .comma | .assign _ => true
  | _ => false

namespace Session

def divided : List Bracket → List Token → Bool
  | _, [] => false
  | brackets, token :: tokens =>
    brackets.isEmpty && token.divides || divided ((bracketsBehind brackets token).getD []) tokens

/-- The open brackets and the waiting question marks behind a token that belongs to the branch. -/
def passOver (branch : Branch) : List Bracket × Nat → Token → Option (List Bracket × Nat)
  | (brackets, pending), token =>
    match judge branch brackets pending token with
    | .pass opened waiting => some (opened, waiting)
    | _ => none

def Covers (branch : Branch) (tokens : List Token) (before behind : List Bracket × Nat) : Prop :=
  tokens.foldlM (passOver branch) before = some behind

section Covers

variable {branch : Branch} {brackets opened : List Bracket} {pending waiting : Nat}
  {token : Token} {tokens others : List Token} {before behind final : List Bracket × Nat}

theorem passOver_eq_some :
    passOver branch (brackets, pending) token = some (opened, waiting) ↔
      judge branch brackets pending token = .pass opened waiting := by
  rw [passOver]
  generalize judge branch brackets pending token = verdict
  cases verdict <;> simp

theorem Covers.nil : Covers branch [] before before := rfl

theorem covers_cons :
    Covers branch (token :: tokens) before final ↔
      ∃ behind, passOver branch before token = some behind ∧ Covers branch tokens behind final := by
  rw [Covers, List.foldlM_cons]
  exact Option.bind_eq_some_iff

theorem Covers.append (first : Covers branch tokens before behind)
    (second : Covers branch others behind final) : Covers branch (tokens ++ others) before final := by
  rw [Covers, List.foldlM_append, first]
  exact second

theorem covers_single (verdict : judge branch brackets pending token = .pass opened waiting) :
    Covers branch [token] (brackets, pending) (opened, waiting) :=
  covers_cons.mpr ⟨_, passOver_eq_some.mpr verdict, .nil⟩

theorem Covers.finish_not_mem (covers : Covers branch tokens before behind) :
    .finish ∉ tokens := by
  induction tokens generalizing before with
  | nil => exact List.not_mem_nil
  | cons token tokens ih =>
      obtain ⟨_, moved, others⟩ := covers_cons.mp covers
      intro member
      rcases List.mem_cons.mp member with atEnd | member
      · obtain ⟨brackets, pending⟩ := before
        rw [passOver_eq_some, ← atEnd] at moved
        cases brackets <;> cases moved
      · exact ih others member

theorem Covers.nested (covers : Covers branch tokens before behind) :
    tokens.foldlM bracketsBehind before.1 = some behind.1 := by
  induction tokens generalizing before with
  | nil =>
      cases covers
      rfl
  | cons token tokens ih =>
      obtain ⟨_, moved, others⟩ := covers_cons.mp covers
      rw [List.foldlM_cons, bracketsBehind_of_pass (passOver_eq_some.mp moved)]
      exact ih others

/-- Question marks that wait already do not keep tokens from belonging to the branch. -/
theorem Covers.shift (covers : Covers branch tokens (brackets, pending) (opened, waiting))
    (more : Nat) : Covers branch tokens (brackets, pending + more) (opened, waiting + more) := by
  induction tokens generalizing brackets pending with
  | nil =>
      cases covers
      exact .nil
  | cons token tokens ih =>
      obtain ⟨⟨between, left⟩, moved, others⟩ := covers_cons.mp covers
      have verdict := passOver_eq_some.mp moved
      refine covers_cons.mpr ⟨(between, left + more), ?_, ih others⟩
      apply passOver_eq_some.mpr
      -- only these tokens look at the number of question marks that wait
      cases token with
      | question =>
          simp only [judge] at verdict ⊢
          split at verdict <;> cases verdict <;> simp [*, Nat.add_right_comm]
      | colon =>
          simp only [judge] at verdict ⊢
          split at verdict
          · cases verdict
            simp [*]
          · split at verdict <;> cases verdict
            rename_i isEmpty positive
            rw [if_neg isEmpty, if_pos (by omega)]
            congr 1
            omega
      | comma | assign _ =>
          simp only [judge] at verdict ⊢
          split at verdict <;> cases verdict
          simp [*]
      | closeParen | closeBracket =>
          cases brackets with
          | nil => cases verdict
          | cons b brackets =>
              simp only [judge, judgeClosing] at verdict ⊢
              split at verdict <;> cases verdict
              rw [if_pos ‹_›]
      | finish => cases brackets <;> cases verdict
      | _ =>
          cases verdict
          rfl

/-- Inside of a bracket a row whose brackets are nested properly belongs to every branch. -/
theorem covers_inside (nested : tokens.foldlM bracketsBehind brackets = some opened)
    (noEnd : .finish ∉ tokens) {outer : List Bracket} (isOpen : outer ≠ []) (branch : Branch)
    (pending : Nat) : Covers branch tokens (brackets ++ outer, pending) (opened ++ outer, pending) := by
  induction tokens generalizing brackets with
  | nil =>
      cases nested
      exact .nil
  | cons token tokens ih =>
      rw [List.foldlM_cons] at nested
      obtain ⟨between, moved, others⟩ := Option.bind_eq_some_iff.mp nested
      have more : token ≠ .finish := fun atEnd => noEnd (atEnd ▸ List.mem_cons_self)
      have verdict : judge branch (brackets ++ outer) pending token = .pass (between ++ outer) pending :=
        judge_inside (List.append_ne_nil_of_right_ne_nil _ isOpen) more
          (bracketsBehind_append moved outer)
      have noEnd' : .finish ∉ tokens := fun member => noEnd (List.mem_cons_of_mem _ member)
      exact covers_cons.mpr ⟨_, passOver_eq_some.mpr verdict, ih others noEnd'⟩

/-! ### Tokens that divide -/

theorem judge_first (verdict : judge branch brackets pending token = .pass opened waiting) :
    judge .first brackets pending token = .pass opened waiting := by
  cases token with
  | comma | assign _ =>
      cases brackets with
      | nil =>
          cases branch <;> cases verdict
          rfl
      | cons b brackets => exact verdict
  | _ => exact verdict

theorem judge_second (verdict : judge .first brackets pending token = .pass opened waiting)
    (whole : (brackets.isEmpty && token.divides) = false) :
    judge .second brackets pending token = .pass opened waiting := by
  cases token with
  | comma | assign _ =>
      cases brackets with
      | nil => cases whole
      | cons b brackets => exact verdict
  | _ => exact verdict

theorem divided_cons (moved : passOver branch (brackets, pending) token = some (opened, waiting)) :
    divided brackets (token :: tokens) =
      (brackets.isEmpty && token.divides || divided opened tokens) := by
  rw [divided, bracketsBehind_of_pass (passOver_eq_some.mp moved)]
  rfl

theorem divided_append (covers : Covers branch tokens (brackets, pending) (opened, waiting)) :
    divided brackets (tokens ++ others) = (divided brackets tokens || divided opened others) := by
  induction tokens generalizing brackets pending with
  | nil =>
      cases covers
      rfl
  | cons token tokens ih =>
      obtain ⟨⟨between, left⟩, moved, tail⟩ := covers_cons.mp covers
      rw [List.cons_append, divided_cons moved, divided_cons moved, ih tail, Bool.or_assoc]

/-- What belongs to one of the branches belongs to the first one. -/
theorem Covers.first (covers : Covers branch tokens before behind) :
    Covers .first tokens before behind := by
  induction tokens generalizing before with
  | nil => exact covers
  | cons token tokens ih =>
      obtain ⟨⟨opened, waiting⟩, moved, tail⟩ := covers_cons.mp covers
      have verdict := judge_first (passOver_eq_some.mp moved)
      exact covers_cons.mpr ⟨_, passOver_eq_some.mpr verdict, ih tail⟩

/-- Without a token that divides, both kinds of branches are passed over alike. -/
theorem Covers.second (covers : Covers .first tokens (brackets, pending) behind)
    (whole : divided brackets tokens = false) :
    Covers .second tokens (brackets, pending) behind := by
  induction tokens generalizing brackets pending with
  | nil => exact covers
  | cons token tokens ih =>
      obtain ⟨⟨opened, waiting⟩, moved, others⟩ := covers_cons.mp covers
      rw [divided_cons moved, Bool.or_eq_false_iff] at whole
      have verdict := judge_second (passOver_eq_some.mp moved) whole.1
      exact covers_cons.mpr ⟨_, passOver_eq_some.mpr verdict, ih others whole.2⟩

theorem Covers.undivided (covers : Covers .second tokens (brackets, pending) behind) :
    divided brackets tokens = false := by
  induction tokens generalizing brackets pending with
  | nil => rfl
  | cons token tokens ih =>
      obtain ⟨⟨opened, waiting⟩, moved, others⟩ := covers_cons.mp covers
      rw [divided_cons moved, ih others, Bool.or_false]
      have verdict := passOver_eq_some.mp moved
      cases token with
      | comma | assign _ =>
          cases brackets with
          | nil => cases verdict
          | cons b brackets => rfl
      | _ => exact Bool.and_false _

/-- The second kind of branch is passed over up to the first token that divides. -/
theorem Covers.up_to_divider (covers : Covers .first tokens (brackets, pending) behind)
    (isDivided : divided brackets tokens = true) :
    ∃ front divider rest waiting, tokens = front ++ divider :: rest ∧ divider.divides = true ∧
      Covers .second front (brackets, pending) ([], waiting) := by
  induction tokens generalizing brackets pending with
  | nil => cases isDivided
  | cons token tokens ih =>
      obtain ⟨⟨opened, waiting⟩, moved, others⟩ := covers_cons.mp covers
      cases here : brackets.isEmpty && token.divides with
      | true =>
          obtain ⟨isEmpty, divides⟩ := (Bool.and_eq_true _ _).mp here
          obtain rfl := List.isEmpty_iff.mp isEmpty
          exact ⟨[], token, tokens, pending, rfl, divides, .nil⟩
      | false =>
          rw [divided_cons moved, here, Bool.false_or] at isDivided
          obtain ⟨front, divider, rest, left, rfl, divides, second⟩ := ih others isDivided
          have verdict := judge_second (passOver_eq_some.mp moved) here
          refine ⟨token :: front, divider, rest, left, rfl, divides, ?_⟩
          exact covers_cons.mpr ⟨_, passOver_eq_some.mpr verdict, second⟩

end Covers

/-! ### Rows between two states -/

section Passed

variable {σ : Type} {s t u : Session σ} {branch : Branch} {tokens others : List Token}

/-- These tokens lie between the two states. Behind the last token of a text there is the end. -/
structure Passed (s : Session σ) (tokens : List Token) (t : Session σ) : Prop where
  finish_not_mem : .finish ∉ tokens
  fault : t.fault = s.fault
  ahead : s.ahead = tokens ++ t.ahead ∨ s.fault = none ∧ s.ahead = tokens ∧ t.ahead = [.finish]

/-- A step that moves no token. -/
theorem Passed.stay (fault : t.fault = s.fault) (ahead : t.ahead = s.ahead) : Passed s [] t :=
  ⟨List.not_mem_nil, fault, .inl ahead.symm⟩

theorem Passed.append (first : Passed s tokens t) (second : Passed t others u) :
    Passed s (tokens ++ others) u where
  finish_not_mem member := by
    rcases List.mem_append.mp member with member | member
    · exact first.finish_not_mem member
    · exact second.finish_not_mem member
  fault := second.fault.trans first.fault
  ahead := by
    rcases first.ahead with here | ⟨readable, here, ended⟩
    · rcases second.ahead with there | ⟨readable, there, ended⟩
      · exact .inl (by rw [here, there, List.append_assoc])
      · exact .inr ⟨first.fault ▸ readable, by rw [here, there], ended⟩
    · -- behind the end nothing is passed over
      rcases second.ahead with there | ⟨_, there, _⟩
      · rw [ended] at there
        cases others with
        | nil => exact .inr ⟨readable, by rw [here, List.append_nil], there.symm⟩
        | cons other others =>
            have absent := List.append_ne_nil_of_right_ne_nil others (List.cons_ne_nil u.token u.rest)
            exact absurd (List.cons.inj there).2.symm absent
      · refine absurd ?_ second.finish_not_mem
        rw [← there, ended]
        exact List.mem_singleton_self _

theorem token_of_advance {token : Token} (ran : advance s = (.ok token, t)) : token = s.token := by
  cases others : s.rest with
  | cons next rest =>
      rw [run_advance_cons others] at ran
      cases ran
      rfl
  | nil =>
      cases broken : s.fault with
      | none =>
          rw [run_advance_end others broken] at ran
          cases ran
          rfl
      | some fault =>
          rw [run_advance_fault others broken] at ran
          cases ran

theorem passed_of_advance {token : Token} (more : s.token ≠ .finish)
    (ran : advance s = (.ok token, t)) : Passed s [s.token] t := by
  have single : .finish ∉ [s.token] := fun member => more (List.mem_singleton.mp member).symm
  cases others : s.rest with
  | cons next rest =>
      rw [run_advance_cons others] at ran
      cases ran
      exact ⟨single, rfl, .inl (by simp [ahead, others])⟩
  | nil =>
      cases broken : s.fault with
      | none =>
          rw [run_advance_end others broken] at ran
          cases ran
          exact ⟨single, rfl, .inr ⟨broken, by simp [ahead, others], rfl⟩⟩
      | some fault =>
          rw [run_advance_fault others broken] at ran
          cases ran

end Passed

/-! ### Branches as rows -/

section Skipping

variable {σ : Type} {s t : Session σ} {branch : Branch} {fault : Option LexicalFault}
  {brackets : List Bracket} {pending waiting : Nat} {skipped : Bool} {token next : Token}
  {tokens rest others : List Token}

theorem covers_of_skips {found : Token × List Token}
    (skips : Skips branch fault found brackets pending skipped token rest) :
    ∃ tokens waiting, Covers branch tokens (brackets, pending) ([], waiting) ∧
      judge branch [] waiting found.1 = .halt ∧
      (token :: rest = tokens ++ found.1 :: found.2 ∨
        fault = none ∧ token :: rest = tokens ∧ found = (.finish, [])) := by
  induction skips with
  | halt verdict =>
      obtain rfl := brackets_of_halt verdict
      exact ⟨[], _, .nil, verdict, .inl rfl⟩
  | @last _ _ waiting _ token verdict readable =>
      exact ⟨[token], waiting, covers_single verdict, rfl, .inr ⟨readable, rfl, rfl⟩⟩
  | @more _ _ _ _ _ _ token _ _ verdict _ ih =>
      obtain ⟨tokens, waiting, covers, stop, place⟩ := ih
      refine ⟨token :: tokens, waiting, ?_, stop, ?_⟩
      · exact covers_cons.mpr ⟨_, passOver_eq_some.mpr verdict, covers⟩
      · rcases place with here | ⟨readable, here, ended⟩
        · exact .inl (by rw [here, List.cons_append])
        · exact .inr ⟨readable, by rw [here], ended⟩

theorem skipBranch_of_covers (covers : Covers branch tokens (brackets, pending) ([], waiting))
    (stop : judge branch [] waiting next = .halt) (started : skipped = true ∨ tokens ≠ [])
    (place : token :: rest = tokens ++ next :: others) :
    skipBranch branch fault brackets pending skipped token rest = .ok (next, others) := by
  induction tokens generalizing brackets pending skipped token rest with
  | nil =>
      cases covers
      cases place
      obtain rfl := started.resolve_right (absurd rfl)
      rw [skipBranch_halt stop]
      rfl
  | cons first tokens ih =>
      obtain ⟨⟨opened, left⟩, moved, tail⟩ := covers_cons.mp covers
      have verdict := passOver_eq_some.mp moved
      obtain ⟨rfl, behind⟩ : token = first ∧ rest = tokens ++ next :: others := List.cons.inj place
      rw [behind]
      cases tokens with
      | nil =>
          rw [List.nil_append, skipBranch_pass_cons verdict]
          exact ih tail (.inl rfl) rfl
      | cons second tokens =>
          rw [List.cons_append, skipBranch_pass_cons verdict]
          exact ih tail (.inl rfl) rfl

theorem skipBranch_to_end (covers : Covers branch (token :: rest) (brackets, pending) ([], waiting)) :
    skipBranch branch none brackets pending skipped token rest = .ok (.finish, []) := by
  induction rest generalizing brackets pending skipped token with
  | nil =>
      obtain ⟨⟨opened, left⟩, moved, covers⟩ := covers_cons.mp covers
      cases covers
      rw [skipBranch_pass_nil (passOver_eq_some.mp moved)]
      rfl
  | cons next rest ih =>
      obtain ⟨⟨opened, left⟩, moved, covers⟩ := covers_cons.mp covers
      rw [skipBranch_pass_cons (passOver_eq_some.mp moved)]
      exact ih covers

/-- A branch is passed over up to the state in front of which it ends. -/
theorem run_skipOperand_of_covers (passed : Passed s tokens t)
    (covers : Covers branch tokens ([], 0) ([], waiting)) (some : tokens ≠ [])
    (stop : judge branch [] waiting t.token = .halt) :
    skipOperand branch s = (.ok (), { s with token := t.token, rest := t.rest }) := by
  rcases passed.ahead with here | ⟨readable, here, ended⟩
  · exact @run_skipOperand_ok _ _ _ (t.token, t.rest)
      (skipBranch_of_covers covers stop (.inr some) here)
  · obtain ⟨token, rest⟩ := List.cons.inj ended
    rw [token, rest]
    rw [← here] at covers
    apply @run_skipOperand_ok _ _ _ (.finish, [])
    rw [readable]
    exact skipBranch_to_end covers

theorem covers_of_skipOperand (ran : skipOperand branch s = (.ok (), t)) :
    ∃ tokens waiting, Passed s tokens t ∧ Covers branch tokens ([], 0) ([], waiting) ∧
      judge branch [] waiting t.token = .halt := by
  rw [run_skipOperand] at ran
  split at ran
  · rename_i next rest skips
    cases ran
    obtain ⟨tokens, waiting, covers, stop, place⟩ := covers_of_skips (skips_of_skipBranch skips)
    refine ⟨tokens, waiting, ⟨covers.finish_not_mem, rfl, ?_⟩, covers, stop⟩
    rcases place with here | ⟨readable, here, ended⟩
    · exact .inl here
    · cases ended
      exact .inr ⟨readable, here, rfl⟩
  · cases ran

end Skipping

end Session

end TemplateCalc
