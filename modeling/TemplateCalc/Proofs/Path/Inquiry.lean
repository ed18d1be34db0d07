import TemplateCalc.Proofs.Path.Value

/-!
Inquiries about paths.

An inquiry goes along a path as a value does, and stops at the symbol at its end, whether it is a
container or not. What it then answers depends on nothing else.
-/

set_option autoImplicit false

namespace TemplateCalc.Session

variable {σ : Type} {env : Surroundings σ} {room : Nat} {effects : Bool} {x : Variable}
  {hops : List Hop} {last : Symbol} {tokens more : List Token} {found : Subject} {s : Session σ}

/-! ### Subjects -/

def Names (env : Surroundings σ) (room : Nat) (effects : Bool) (found : Subject)
    (more : List Token) (s : Session σ) : Prop :=
  ∃ name t u, subjectName s = (.ok name, t) ∧
    subject env (nest env room) effects name t = (.ok found, u) ∧ At more u

theorem subjectName_variable (met : At (.word x.name :: more) s) :
    ∃ t, subjectName s = (.ok x.name, t) ∧ At more t ∧ t.vars = s.vars := by
  obtain ⟨t, passed, behind, sameVars⟩ := met.advance
  refine ⟨t, ?_, behind, sameVars⟩
  have own : subjectName? (.word x.name) = some x.name := by
    rw [subjectName?, x.noKeyword]
    rfl
  rw [subjectName, run_bind_ok passed]
  simp only [own]
  rfl

def endsPath : Token → Bool
  | .dot | .openBracket => false
  | _ => true

theorem run_pathEnd (symbol : Symbol) (ends : endsPath s.token = true) :
    pathEnd symbol s = (.ok symbol, s) := by
  rw [pathEnd, run_bind_ok (run_peek s)]
  cases viewed : s.token with
  | dot | openBracket =>
      rw [viewed] at ends
      cases ends
  | _ => rfl

/-- The subject is the symbol at the end of the path. -/
theorem Arrives.names (arrives : Arrives env room x hops last more s)
    (ends : endsPath (more.headD .finish) = true) (effects : Bool) :
    Names env room effects (.symbol last) more s := by
  obtain ⟨base, known, leads⟩ := arrives.leads
  obtain ⟨t, named, behind, sameVars⟩ := subjectName_variable arrives.met
  have unbound := arrives.unbound
  rw [← sameVars] at unbound
  obtain ⟨journal, ran⟩ := @subject_symbol _ env effects _ (nest env room) _ _ unbound known
  have met : At (pathTokens hops ++ more) { t with journal := journal } :=
    ⟨behind.token, behind.rest, behind.readable⟩
  obtain ⟨u, rounds, followed, after, _, _⟩ :=
    run_loop (follows_pathFrom env (nest env room) effects) leads arrives.enough met
      (length_le_ahead met)
  rw [← after.token] at ends
  have stop : leadsOn last.value u.token = false := by
    apply leadsOn_eq_false
    all_goals
      intro viewed
      rw [viewed] at ends
      cases ends
  refine ⟨x.name, t, u, named, ?_, after⟩
  have reached : pathFrom env (nest env room) effects { t with journal := journal }.ahead base
      { t with journal := journal } = (.ok last, u) :=
    followed.trans ((pathFrom_stop stop rounds).trans (run_pathEnd last ends))
  rw [ran]
  exact run_bind_ok reached

/-! ### Answers -/

theorem settled_answer (i : Inquiry) (found : Subject) : Settled (answer i found) := by
  unfold answer
  split
  all_goals
    intro e failed
    cases failed
    try exact EvalError.noConfusion

theorem primary_inquiry {nested : Nested σ} {stepWaits : Bool} (i : Inquiry)
    (met : At (.word i.name :: tokens) s) :
    ∃ t, primary env nested stepWaits effects s = inquire env nested effects i t ∧ At tokens t ∧
      t.vars = s.vars := by
  obtain ⟨t, passed, behind, sameVars⟩ := met.advance
  have viewed : s.token = .word i.name := met.token
  refine ⟨t, ?_, behind, sameVars⟩
  rw [primary, run_bind_ok (run_peek s), viewed]
  simp only
  rw [run_bind_ok (run_pass_ok passed)]
  cases i <;> rfl

theorem run_ofExcept_map (result : Except EvalError Value) (s : Session σ) :
    (do
      let value ← ofExcept result
      return ({ value } : Operand) : Eval σ Operand) s =
      (result.map fun value => { value }, s) := by
  cases result <;> rfl

theorem primary_asked (i : Inquiry) (met : At (.word i.name :: .openParen :: tokens) s)
    (names : ∀ t : Session σ, At tokens t → t.vars = s.vars → Names env room effects found more t) :
    ∃ t, At more t ∧
      primary env (nest env room) false effects { s with depth := s.depth + 1 } =
        (do
          expect isCloseParen (.closingExpected i.name)
          let value ← ofExcept (answer i found)
          return ({ value } : Operand) : Eval σ Operand) t := by
  have isDeep : At (.word i.name :: .openParen :: tokens) { s with depth := s.depth + 1 } :=
    ⟨met.token, met.rest, met.readable⟩
  obtain ⟨t, isInquiry, atParen, sameVars⟩ :=
    @primary_inquiry _ env effects _ _ (nest env room) false i isDeep
  obtain ⟨u, passed, inside, sameVars'⟩ := atParen.advance
  obtain ⟨name, v, w, named, ran, behind⟩ := names u inside (sameVars'.trans sameVars)
  have viewed : t.token = .openParen := atParen.token
  refine ⟨w, behind, ?_⟩
  rw [isInquiry, inquire, run_bind_ok (run_peek t), viewed]
  simp only
  rw [run_bind_ok (run_pass_ok passed), run_bind_ok named, run_bind_ok ran]

theorem whole_of_inquiry (i : Inquiry) (met : At (.word i.name :: .openParen :: tokens) s)
    (names : ∀ t : Session σ, At tokens t → t.vars = s.vars →
      Names env room effects found [.closeParen] t) :
    (whole env (room + 1) effects s).1 = answer i found := by
  obtain ⟨t, behind, ran⟩ := primary_asked i met names
  obtain ⟨u, closing, atEnd, _⟩ := behind.advance
  have closed : expect isCloseParen (.closingExpected i.name) t = (.ok (), u) :=
    run_expect_ok (by rw [behind.token]; rfl) closing
  rw [run_bind_ok closed, run_ofExcept_map] at ran
  exact whole_of_primary (settled_answer i found) (by rw [met.token]; rfl) ran atEnd.token

theorem whole_of_unclosed (i : Inquiry) (met : At (.word i.name :: .openParen :: tokens) s)
    (names : ∀ t : Session σ, At tokens t → t.vars = s.vars → Names env room effects found more t)
    (unclosed : isCloseParen (more.headD .finish) = false) :
    (whole env (room + 1) effects s).1 = .error (.grammar (.closingExpected i.name)) := by
  obtain ⟨t, behind, ran⟩ := primary_asked i met names
  have failed : expect isCloseParen (.closingExpected i.name) t =
      (.error (.grammar (.closingExpected i.name)), t) := by
    rw [expect, run_bind_ok (run_peek t), behind.token, unclosed]
    rfl
  rw [run_bind_error failed] at ran
  exact whole_of_postfixed_error (by rw [met.token]; rfl) (run_bind_error ran)
    EvalError.noConfusion

/-- Whether there is a subject can be asked without parentheses. -/
theorem whole_of_defined (met : At (.word Inquiry.defined.name :: tokens) s)
    (noParen : tokens.headD .finish ≠ .openParen)
    (names : ∀ t : Session σ, At tokens t → t.vars = s.vars → Names env room effects found [] t) :
    (whole env (room + 1) effects s).1 = answer .defined found := by
  have isDeep : At (.word Inquiry.defined.name :: tokens) { s with depth := s.depth + 1 } :=
    ⟨met.token, met.rest, met.readable⟩
  obtain ⟨t, isInquiry, inside, sameVars⟩ :=
    @primary_inquiry _ env effects _ _ (nest env room) false .defined isDeep
  obtain ⟨name, u, v, named, ran, atEnd⟩ := names t inside sameVars
  apply whole_of_primary (settled_answer .defined found) (by rw [met.token]; rfl) ?_ atEnd.token
  rw [← inside.token] at noParen
  rw [isInquiry, inquire, run_bind_ok (run_peek t), if_pos rfl]
  cases viewed : t.token with
  | openParen => exact absurd viewed noParen
  | _ =>
      simp only
      rw [run_bind_ok named, run_bind_ok ran]
      exact run_ofExcept_map _ _

/-! ### Names that the host does not know -/

/-- The name of a variable that a path can stand for: the name itself, or that of the first element. -/
def variableName (name : String) : List Hop → String
  | .element index :: _ => elementName name index.value
  | _ => name

def behindVariable : List Hop → List Hop
  | .element _ :: rest => rest
  | hops => hops

structure Unknown (env : Surroundings σ) (room : Nat) (x : Variable) (hops : List Hop)
    (more : List Token) (s : Session σ) : Prop where
  met : At (.word x.name :: (pathTokens hops ++ more)) s
  unresolved : env.host.resolve x.name none 0 = none
  unbound : s.vars.get? x.name = none
  unboundElement : s.vars.get? (variableName x.name hops) = none
  enough : ∀ hop ∈ hops, hop.room ≤ room

theorem run_indexedName (env : Surroundings σ) (effects : Bool) (name : String)
    (enough : ∀ hop ∈ hops, hop.room ≤ room) (noIndex : more.headD .finish ≠ .openBracket)
    (met : At (pathTokens hops ++ more) s) :
    ∃ t, indexedName (nest env room) effects name s = (.ok (variableName name hops), t) ∧
      At (pathTokens (behindVariable hops) ++ more) t ∧ t.vars = s.vars := by
  have plain (noBracket : s.token ≠ .openBracket) :
      indexedName (nest env room) effects name s = (.ok name, s) := by
    rw [indexedName, run_bind_ok (run_peek s)]
    cases viewed : s.token with
    | openBracket => exact absurd viewed noBracket
    | _ => rfl
  cases hops with
  | nil =>
      rw [pathTokens, List.flatMap_nil, List.nil_append] at met
      rw [← met.token] at noIndex
      exact ⟨s, plain noIndex, met, rfl⟩
  | cons hop rest =>
      cases hop with
      | member name => exact ⟨s, plain (by rw [met.token]; exact Token.noConfusion), met, rfl⟩
      | element index =>
          have viewed : s.token = .openBracket := met.token
          have isPath : pathTokens (.element index :: rest) ++ more =
              .openBracket :: (index.tokens ++ .closeBracket :: (pathTokens rest ++ more)) := by
            simp only [pathTokens, List.flatMap_cons, Hop.tokens, Hop.mark, Hop.behind,
              List.cons_append, List.append_assoc, List.nil_append]
          rw [isPath] at met
          obtain ⟨t, ran, behind, sameVars⟩ :=
            run_index env effects (enough _ List.mem_cons_self) .index met
          refine ⟨t, ?_, behind, sameVars⟩
          rw [indexedName, run_bind_ok (run_peek s), viewed]
          simp only
          rw [run_bind_ok ran]
          rfl

theorem Unknown.names (unknown : Unknown env room x hops more s)
    (noIndex : more.headD .finish ≠ .openBracket) (effects : Bool) :
    Names env room effects (.missing (variableName x.name hops))
      (pathTokens (behindVariable hops) ++ more) s := by
  obtain ⟨t, named, behind, sameVars⟩ := subjectName_variable unknown.met
  obtain ⟨journal, asked⟩ := run_lookup unknown.unresolved t
  have met : At (pathTokens hops ++ more) { t with journal := journal } :=
    ⟨behind.token, behind.rest, behind.readable⟩
  obtain ⟨u, ran, after, sameVars'⟩ :=
    run_indexedName env effects x.name unknown.enough noIndex met
  have unbound := unknown.unbound
  have unboundElement := unknown.unboundElement
  rw [← sameVars] at unbound unboundElement
  change u.vars = t.vars at sameVars'
  rw [← sameVars'] at unboundElement
  refine ⟨x.name, t, u, named, ?_, after⟩
  rw [subject, run_bind_ok (run_varValue? _ t), unbound]
  simp only
  rw [run_bind_ok asked]
  simp only
  rw [run_bind_ok ran, run_bind_ok (run_varValue? _ u), unboundElement]
  rfl

theorem Unknown.whole_error (unknown : Unknown env room x hops [] s) (effects : Bool) :
    (whole env (room + 1) effects s).1 = .error (.symbol (.unknown (variableName x.name hops))) := by
  have isDeep : At (.word x.name :: (pathTokens hops ++ [])) { s with depth := s.depth + 1 } :=
    ⟨unknown.met.token, unknown.met.rest, unknown.met.readable⟩
  obtain ⟨t, isNamed, behind, sameVars⟩ :=
    @primary_variable _ env (nest env room) false effects _ _ _ isDeep
  obtain ⟨journal, asked⟩ := run_lookup unknown.unresolved t
  have met : At (pathTokens hops ++ []) { t with journal := journal } :=
    ⟨behind.token, behind.rest, behind.readable⟩
  obtain ⟨u, ran, after, sameVars'⟩ :=
    run_indexedName env effects x.name unknown.enough Token.noConfusion met
  have unbound : t.vars.get? x.name = none := by
    rw [sameVars]
    exact unknown.unbound
  have unboundElement : u.vars.get? (variableName x.name hops) = none := by
    rw [sameVars']
    change t.vars.get? _ = none
    rw [sameVars]
    exact unknown.unboundElement
  -- what is behind the name lets no name without a value through
  have stays : letsThrough false u.token = false := by
    rw [after.token, List.append_nil]
    cases behindVariable hops with
    | nil => rfl
    | cons hop rest => cases hop <;> rfl
  have failed : primary env (nest env room) false effects { s with depth := s.depth + 1 } =
      (.error (.symbol (.unknown (variableName x.name hops))), u) := by
    rw [isNamed, named, run_bind_ok (run_varValue? _ t), unbound]
    simp only
    rw [run_bind_ok asked]
    simp only
    rw [run_bind_ok ran, run_bind_ok (run_varValue? _ u), unboundElement]
    simp only
    rw [run_bind_ok (run_peek u), ← letsThrough, stays]
    rfl
  have viewed : s.token = .word x.name := unknown.met.token
  exact whole_of_postfixed_error (by rw [viewed]; rfl) (run_bind_error failed) EvalError.noConfusion

end TemplateCalc.Session
