import TemplateCalc.Calculator

/-!
How evaluation steps run.

A step is a function from a state to a result and a state. The equations here open the steps from
which the levels are made, so that nothing later has to look inside the transformers.
-/

set_option autoImplicit false

namespace TemplateCalc.Session

variable {σ α β : Type}

section State

variable {τ : Type}

theorem run_get (s : τ) : (get : ExceptT EvalError (StateM τ) τ) s = (.ok s, s) := rfl

theorem run_set (s t : τ) : (set t : ExceptT EvalError (StateM τ) PUnit) s = (.ok (), t) := rfl

/-- A failure of the first step is the failure of both. -/
theorem run_bind (m : ExceptT EvalError (StateM τ) α) (f : α → ExceptT EvalError (StateM τ) β)
    (s : τ) :
    (m >>= f) s =
      match m s with
      | (.ok a, t) => f a t
      | (.error e, t) => (.error e, t) := by
  change (match m s with | (a, t) => ExceptT.bindCont f a t) = _
  rcases m s with ⟨_ | _, _⟩ <;> rfl

theorem run_bind_ok {m : ExceptT EvalError (StateM τ) α} {f : α → ExceptT EvalError (StateM τ) β}
    {s t : τ} {a : α} (first : m s = (.ok a, t)) : (m >>= f) s = f a t := by
  rw [run_bind, first]

theorem run_bind_error {m : ExceptT EvalError (StateM τ) α}
    {f : α → ExceptT EvalError (StateM τ) β} {s t : τ} {e : EvalError}
    (first : m s = (.error e, t)) : (m >>= f) s = (.error e, t) := by
  rw [run_bind, first]

end State

theorem run_tryCatch (m : Eval σ α) (f : EvalError → Eval σ α) (s : Session σ) :
    (tryCatch m f) s =
      match m s with
      | (.ok a, t) => (.ok a, t)
      | (.error e, t) => f e t := by
  simp only [tryCatch, tryCatchThe, MonadExceptOf.tryCatch, ExceptT.tryCatch, ExceptT.mk, bind,
    StateT.bind]
  rcases m s with ⟨_ | _, _⟩ <;> rfl

section Rethrow

variable {m : Eval σ α} {change : EvalError → EvalError} {s t : Session σ} {a : α} {e : EvalError}

theorem run_rethrow_ok (ran : m s = (.ok a, t)) :
    (tryCatch m fun e => throw (change e)) s = (.ok a, t) := by
  rw [run_tryCatch, ran]

theorem run_rethrow_error (failed : m s = (.error e, t)) :
    (tryCatch m fun e => throw (change e)) s = (.error (change e), t) := by
  rw [run_tryCatch, failed]
  rfl

theorem ok_of_rethrow (ran : (tryCatch m fun e => throw (change e)) s = (.ok a, t)) :
    m s = (.ok a, t) := by
  rw [run_tryCatch] at ran
  split at ran
  · rename_i outcome
    cases ran
    exact outcome
  · cases ran

/-- An error behind a change of errors comes from one in front of it. -/
theorem error_of_rethrow (failed : (tryCatch m fun e => throw (change e)) s = (.error e, t)) :
    ∃ e', m s = (.error e', t) ∧ e = change e' := by
  rw [run_tryCatch] at failed
  split at failed
  · cases failed
  · rename_i e' _ outcome
    cases failed
    exact ⟨e', outcome, rfl⟩

end Rethrow

theorem run_orMissing (operand : MissingOperand) (m : Eval σ α) (s : Session σ) :
    orMissing operand m s =
      match m s with
      | (.ok a, t) => (.ok a, t)
      | (.error e, t) => (.error (e.orMissing operand), t) := by
  rw [orMissing, run_tryCatch]
  rfl

theorem run_orMissing_error {operand : MissingOperand} {m : Eval σ α} {s t : Session σ}
    {e : EvalError} (failed : m s = (.error e, t)) :
    orMissing operand m s = (.error (e.orMissing operand), t) :=
  run_rethrow_error failed

theorem run_orMissing_ok {operand : MissingOperand} {m : Eval σ α} {s t : Session σ} {a : α}
    (ran : m s = (.ok a, t)) : orMissing operand m s = (.ok a, t) :=
  run_rethrow_ok ran

theorem ok_of_orMissing {operand : MissingOperand} {m : Eval σ α} {s t : Session σ} {a : α}
    (ran : orMissing operand m s = (.ok a, t)) : m s = (.ok a, t) :=
  ok_of_rethrow ran

/-- What runs in front of the operand does not matter for its absence. -/
theorem run_orMissing_same {operand : MissingOperand} {m n : Eval σ α} {s t : Session σ}
    (same : m s = n t) : orMissing operand m s = orMissing operand n t := by
  rw [run_orMissing, run_orMissing, same]

theorem run_bind_same {m n : Eval σ α} {f : α → Eval σ β} {s t : Session σ} (same : m s = n t) :
    (m >>= f) s = (n >>= f) t := by
  rw [run_bind, run_bind, same]

theorem run_bind_agree {m : Eval σ α} {f g : α → Eval σ β} {s : Session σ}
    (agree : ∀ a t, m s = (.ok a, t) → f a t = g a t) : (m >>= f) s = (m >>= g) s := by
  cases outcome : m s with
  | mk result t =>
      cases result with
      | error e => rw [run_bind_error outcome, run_bind_error outcome]
      | ok a => rw [run_bind_ok outcome, run_bind_ok outcome, agree a t outcome]

theorem discard_eq_bind (m : Eval σ α) (s : Session σ) :
    (discard m) s = (m >>= fun _ => pure () : Eval σ Unit) s := by
  rw [run_bind]
  simp only [discard, Functor.discard, Functor.mapConst, ExceptT.map, ExceptT.mk, Function.comp,
    bind, StateT.bind]
  rcases m s with ⟨_ | _, _⟩ <;> rfl

theorem run_peek (s : Session σ) : (peek : Eval σ Token) s = (.ok s.token, s) := rfl

theorem run_note (event : Event) (s : Session σ) :
    note event s = (.ok (), { s with journal := s.journal.push event }) := rfl

theorem run_deeper_ok {m : Eval σ α} {s t : Session σ} {a : α}
    (ran : m { s with depth := s.depth + 1 } = (.ok a, t)) :
    deeper m s = (.ok a, { t with depth := t.depth - 1 }) := by
  rw [deeper, ran]

theorem run_deeper_error {m : Eval σ α} {s t : Session σ} {e : EvalError}
    (failed : m { s with depth := s.depth + 1 } = (.error e, t)) :
    deeper m s = (.error e, { t with depth := t.depth - 1 }) := by
  rw [deeper, failed]

/-- What a step does one level deeper it does there, whether it succeeds or fails. -/
theorem exists_of_deeper {m : Eval σ α} {s t : Session σ} {result : Except EvalError α}
    (ran : deeper m s = (result, t)) :
    ∃ u, m { s with depth := s.depth + 1 } = (result, u) ∧ t = { u with depth := u.depth - 1 } := by
  cases outcome : m { s with depth := s.depth + 1 } with
  | mk found u =>
      rw [deeper, outcome] at ran
      cases ran
      exact ⟨u, rfl, rfl⟩

theorem run_pass_ok {s t : Session σ} {token : Token} (passed : advance s = (.ok token, t)) :
    (discard advance : Eval σ Unit) s = (.ok (), t) := by
  rw [discard_eq_bind, run_bind_ok passed]
  rfl

theorem run_pass_error {s t : Session σ} {e : EvalError} (failed : advance s = (.error e, t)) :
    (discard advance : Eval σ Unit) s = (.error e, t) := by
  rw [discard_eq_bind, run_bind_error failed]

theorem ok_of_bind {m : Eval σ α} {f : α → Eval σ β} {s u : Session σ} {b : β}
    (ran : (m >>= f) s = (.ok b, u)) : ∃ a t, m s = (.ok a, t) ∧ f a t = (.ok b, u) := by
  rw [run_bind] at ran
  cases outcome : m s with
  | mk result t =>
      rw [outcome] at ran
      cases result with
      | error e => cases ran
      | ok a => exact ⟨a, t, rfl, ran⟩

theorem error_of_bind {m : Eval σ α} {f : α → Eval σ β} {s u : Session σ} {e : EvalError}
    (ran : (m >>= f) s = (.error e, u)) :
    m s = (.error e, u) ∨ ∃ a t, m s = (.ok a, t) ∧ f a t = (.error e, u) := by
  rw [run_bind] at ran
  cases outcome : m s with
  | mk result t =>
      rw [outcome] at ran
      cases result with
      | error e' =>
          cases ran
          exact .inl rfl
      | ok a => exact .inr ⟨a, t, rfl, ran⟩

theorem orMissing_ne_notImplemented {operand : MissingOperand} {m : Eval σ α} {s t : Session σ}
    {e : EvalError} (failed : orMissing operand m s = (.error e, t)) : e ≠ .notImplemented := by
  obtain ⟨e', _, rfl⟩ := error_of_rethrow failed
  cases e' <;> exact EvalError.noConfusion

/-- An error that is known to be no missing operand stays as it is. -/
theorem orMissing_of_ne {operand : MissingOperand} {e : EvalError} (found : e ≠ .notImplemented) :
    e.orMissing operand = e := by
  cases e with
  | notImplemented => exact absurd rfl found
  | _ => rfl

/-! ### Passing over tokens -/

/-- Bringing the next token into view changes the tokens only. -/
theorem advance_state (s : Session σ) :
    ∃ token rest, (advance s).2 = { s with token := token, rest := rest } := by
  cases s with
  | mk token rest fault vars random dialog depth journal =>
      cases rest with
      | cons next rest => exact ⟨next, rest, rfl⟩
      | nil =>
          cases fault with
          | none => exact ⟨.finish, [], rfl⟩
          | some fault => exact ⟨token, [], rfl⟩

theorem run_advance_cons {s : Session σ} {next : Token} {rest : List Token}
    (more : s.rest = next :: rest) :
    advance s = (.ok s.token, { s with token := next, rest := rest }) := by
  cases s
  cases more
  rfl

theorem run_advance_end {s : Session σ} (last : s.rest = []) (readable : s.fault = none) :
    advance s = (.ok s.token, { s with token := .finish, rest := [] }) := by
  cases s
  cases last
  cases readable
  rfl

theorem run_advance_fault {s : Session σ} {fault : LexicalFault} (last : s.rest = [])
    (broken : s.fault = some fault) : advance s = (.error (.lexical fault), s) := by
  cases s
  cases last
  cases broken
  rfl

theorem advance_ne_notImplemented {s t : Session σ} {e : EvalError}
    (failed : advance s = (.error e, t)) : e ≠ .notImplemented := by
  cases others : s.rest with
  | cons next rest =>
      rw [run_advance_cons others] at failed
      cases failed
  | nil =>
      cases broken : s.fault with
      | none =>
          rw [run_advance_end others broken] at failed
          cases failed
      | some fault =>
          rw [run_advance_fault others broken] at failed
          cases failed
          exact EvalError.noConfusion

theorem run_expect_ok {wanted : Token → Bool} {fault : GrammarFault} {s t : Session σ}
    {token : Token} (fits : wanted s.token = true) (passed : advance s = (.ok token, t)) :
    expect wanted fault s = (.ok (), t) := by
  rw [expect, run_bind_ok (run_peek s), fits]
  exact run_pass_ok passed

theorem expect_ne_notImplemented {wanted : Token → Bool} {fault : GrammarFault} {s t : Session σ}
    {e : EvalError} (failed : expect wanted fault s = (.error e, t)) : e ≠ .notImplemented := by
  rw [expect, run_bind_ok (run_peek s)] at failed
  split at failed
  · rw [discard_eq_bind] at failed
    rcases error_of_bind failed with failed | ⟨_, _, _, impossible⟩
    · exact advance_ne_notImplemented failed
    · cases impossible
  · cases failed
    exact EvalError.noConfusion

section Skipping

variable {branch : Branch} {fault : Option LexicalFault} {brackets opened : List Bracket}
  {pending waiting : Nat} {skipped : Bool} {token : Token}

theorem skipBranch_halt (verdict : judge branch brackets pending token = .halt)
    (rest : List Token) :
    skipBranch branch fault brackets pending skipped token rest =
      if skipped then .ok (token, rest) else .error .notImplemented := by
  unfold skipBranch
  rw [verdict]

theorem skipBranch_refuse {b : Bracket} (verdict : judge branch brackets pending token = .refuse b)
    (rest : List Token) :
    skipBranch branch fault brackets pending skipped token rest = .error b.unclosed := by
  unfold skipBranch
  rw [verdict]

theorem skipBranch_pass_cons (verdict : judge branch brackets pending token = .pass opened waiting)
    (next : Token) (rest : List Token) :
    skipBranch branch fault brackets pending skipped token (next :: rest) =
      skipBranch branch fault opened waiting true next rest := by
  rw [skipBranch.eq_def, verdict]

def skipEnd : Option LexicalFault → List Bracket → Except EvalError (Token × List Token)
  | some fault, _ => .error (.lexical fault)
  | none, [] => .ok (.finish, [])
  | none, b :: _ => .error b.unclosed

theorem skipBranch_pass_nil (verdict : judge branch brackets pending token = .pass opened waiting) :
    skipBranch branch fault brackets pending skipped token [] = skipEnd fault opened := by
  rw [skipBranch.eq_def, verdict]
  rcases fault with _ | fault <;> rcases opened with _ | ⟨b, opened⟩ <;> rfl

theorem skipEnd_ok {found : Token × List Token} (ended : skipEnd fault opened = .ok found) :
    fault = none ∧ opened = [] ∧ found = (.finish, []) := by
  cases fault with
  | some fault => cases ended
  | none =>
      cases opened with
      | cons b opened => cases ended
      | nil =>
          cases ended
          exact ⟨rfl, rfl, rfl⟩

/-- How a branch is passed over. It ends in front of the token in view or behind the last one, or it
takes the token in view and goes on. -/
inductive Skips (branch : Branch) (fault : Option LexicalFault) :
    Token × List Token → List Bracket → Nat → Bool → Token → List Token → Prop where
  | halt {brackets : List Bracket} {pending : Nat} {token : Token} {rest : List Token}
      (verdict : judge branch brackets pending token = .halt) :
      Skips branch fault (token, rest) brackets pending true token rest
  | last {brackets : List Bracket} {pending waiting : Nat} {skipped : Bool} {token : Token}
      (verdict : judge branch brackets pending token = .pass [] waiting) (readable : fault = none) :
      Skips branch fault (.finish, []) brackets pending skipped token []
  | more {found : Token × List Token} {brackets opened : List Bracket} {pending waiting : Nat}
      {skipped : Bool} {token next : Token} {rest : List Token}
      (verdict : judge branch brackets pending token = .pass opened waiting)
      (others : Skips branch fault found opened waiting true next rest) :
      Skips branch fault found brackets pending skipped token (next :: rest)

theorem skips_of_skipBranch {brackets : List Bracket} {pending : Nat} {skipped : Bool}
    {token : Token} {rest : List Token} {found : Token × List Token}
    (passed : skipBranch branch fault brackets pending skipped token rest = .ok found) :
    Skips branch fault found brackets pending skipped token rest := by
  cases verdict : judge branch brackets pending token with
  | halt =>
      rw [skipBranch_halt verdict] at passed
      split at passed <;> cases passed
      rename_i isSkipped
      rw [isSkipped]
      exact .halt verdict
  | refuse b =>
      rw [skipBranch_refuse verdict] at passed
      cases passed
  | pass opened waiting =>
      cases rest with
      | nil =>
          rw [skipBranch_pass_nil verdict] at passed
          obtain ⟨readable, rfl, rfl⟩ := skipEnd_ok passed
          exact .last verdict readable
      | cons next rest =>
          rw [skipBranch_pass_cons verdict] at passed
          exact .more verdict (skips_of_skipBranch passed)
termination_by rest

end Skipping

/-- What passing over a branch does to the state. -/
theorem run_skipOperand (branch : Branch) (s : Session σ) :
    skipOperand branch s =
      match skipBranch branch s.fault [] 0 false s.token s.rest with
      | .ok (token, rest) => (.ok (), { s with token := token, rest := rest })
      | .error e => (.error e, s) := by
  unfold skipOperand
  rw [run_bind_ok (run_get s), run_bind]
  unfold ofExcept
  cases skipBranch branch s.fault [] 0 false s.token s.rest <;> rfl

theorem run_skipOperand_ok {branch : Branch} {s : Session σ} {found : Token × List Token}
    (passed : skipBranch branch s.fault [] 0 false s.token s.rest = .ok found) :
    skipOperand branch s = (.ok (), { s with token := found.1, rest := found.2 }) := by
  rw [run_skipOperand, passed]

theorem run_skipOperand_error {branch : Branch} {s : Session σ} {e : EvalError}
    (failed : skipBranch branch s.fault [] 0 false s.token s.rest = .error e) :
    skipOperand branch s = (.error e, s) := by
  rw [run_skipOperand, failed]

theorem skipOperand_state (branch : Branch) (s : Session σ) :
    ∃ token rest, (skipOperand branch s).2 = { s with token := token, rest := rest } := by
  rw [run_skipOperand]
  cases skipBranch branch s.fault [] 0 false s.token s.rest with
  | ok found => exact ⟨found.1, found.2, rfl⟩
  | error e => exact ⟨s.token, s.rest, rfl⟩

end TemplateCalc.Session
