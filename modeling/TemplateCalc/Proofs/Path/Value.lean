import TemplateCalc.Proofs.Path.Basic

/-!
The value of a path.

A name that the host knows, with steps behind it, has the value of the symbol that the steps lead to.
It has one only if every step can be taken and the last symbol is no container; the fault of the
first step that leads nowhere is the fault of the whole.
-/

set_option autoImplicit false

namespace TemplateCalc.Session

variable {σ : Type} {env : Surroundings σ} {room : Nat} {effects : Bool} {x : Variable}
  {hops rest : List Hop} {hop : Hop} {last : Symbol} {more : List Token} {s t : Session σ}

theorem pathTokens_append (front rest : List Hop) (hop : Hop) :
    pathTokens (front ++ hop :: rest) = pathTokens front ++ (hop.tokens ++ pathTokens rest) := by
  simp only [pathTokens, List.flatMap_append, List.flatMap_cons]

structure Arrives (env : Surroundings σ) (room : Nat) (x : Variable) (hops : List Hop)
    (last : Symbol) (more : List Token) (s : Session σ) : Prop where
  met : At (.word x.name :: (pathTokens hops ++ more)) s
  unbound : s.vars.get? x.name = none
  leads : ∃ base, env.host.resolve x.name none 0 = some base ∧ Leads env.host base hops last
  enough : ∀ hop ∈ hops, hop.room ≤ room

/-- The name is passed over, and the steps that can be taken are taken. What is written behind them
decides about the rest. -/
theorem Arrives.primary (arrives : Arrives env room x hops last more s) (effects : Bool) :
    ∃ t rounds, At more t ∧ more.length ≤ rounds.length ∧
      primary env (nest env room) false effects s =
        (do
          let value ← navigate env (nest env room) effects rounds last
          return ({ value } : Operand) : Eval σ Operand) t := by
  obtain ⟨base, known, leads⟩ := arrives.leads
  obtain ⟨t, isNamed, behind, sameVars⟩ :=
    @primary_variable _ env (nest env room) false effects _ _ _ arrives.met
  have unbound := arrives.unbound
  rw [← sameVars] at unbound
  obtain ⟨journal, ran⟩ := @named_symbol _ env effects _ (nest env room) false _ _ unbound known
  have met : At (pathTokens hops ++ more) { t with journal := journal } :=
    ⟨behind.token, behind.rest, behind.readable⟩
  obtain ⟨u, rounds, followed, after, _, left⟩ :=
    run_loop (follows_navigate env (nest env room) effects) leads arrives.enough met
      (length_le_ahead met)
  refine ⟨u, rounds, after, left, ?_⟩
  rw [isNamed, ran, run_bind, run_bind, ← followed]
  rfl

theorem Arrives.deepen (arrives : Arrives env room x hops last more s) :
    Arrives env room x hops last more { s with depth := s.depth + 1 } :=
  ⟨⟨arrives.met.token, arrives.met.rest, arrives.met.readable⟩, arrives.unbound, arrives.leads,
    arrives.enough⟩

theorem Arrives.startsPrimary (arrives : Arrives env room x hops last more s) :
    startsPrimary s.token = true := by
  have viewed : s.token = .word x.name := arrives.met.token
  rw [viewed]
  rfl

/-- All steps are taken, and the last symbol has a value of its own. -/
theorem Arrives.whole_ok (arrives : Arrives env room x hops last [] s)
    (single : last.value.isContainer = false) (effects : Bool) :
    (whole env (room + 1) effects s).1 = .ok last.value := by
  obtain ⟨t, rounds, behind, _, ran⟩ := arrives.deepen.primary effects
  have stop : leadsOn last.value t.token = false := by
    rw [behind.token]
    exact leadsOn_eq_false Token.noConfusion Token.noConfusion _
  rw [run_bind_ok ((navigate_stop stop rounds).trans (run_scalar single t))] at ran
  exact whole_of_primary (settled_ok _) arrives.startsPrimary ran behind.token

theorem Arrives.whole_error (arrives : Arrives env room x hops last more s) {e : EvalError}
    (failed : Session.primary env (nest env room) false effects { s with depth := s.depth + 1 } =
      (.error e, t)) (found : e ≠ .notImplemented) :
    (whole env (room + 1) effects s).1 = .error e :=
  whole_of_postfixed_error arrives.startsPrimary (run_bind_error failed) found

theorem scalar_container {value : Value} (isContainer : value.isContainer = true) (s : Session σ) :
    ∃ fault, scalar value s = (.error (.grammar fault), s) := by
  cases value with
  | struct => exact ⟨_, rfl⟩
  | array | blob => exact ⟨_, rfl⟩
  | _ => cases isContainer

/-- Behind a container the path does not go on, or not in the way of the container. -/
theorem Arrives.whole_container (arrives : Arrives env room x hops last more s)
    (isContainer : last.value.isContainer = true)
    (stop : leadsOn last.value (more.headD .finish) = false) (effects : Bool) :
    ∃ e, (whole env (room + 1) effects s).1 = .error e := by
  obtain ⟨t, rounds, behind, _, ran⟩ := arrives.deepen.primary effects
  rw [← behind.token] at stop
  obtain ⟨fault, failed⟩ := scalar_container isContainer t
  rw [run_bind_error ((navigate_stop stop rounds).trans failed)] at ran
  exact ⟨_, arrives.whole_error ran EvalError.noConfusion⟩

/-- The next step is one that the container has, but it leads nowhere. -/
theorem Arrives.whole_nowhere
    (arrives : Arrives env room x hops last (hop.tokens ++ pathTokens rest) s)
    (enough : hop.room ≤ room) (goesOn : leadsOn last.value hop.mark = true)
    (nowhere : hop.next? env.host last = none) (effects : Bool) :
    (whole env (room + 1) effects s).1 = .error (.symbol (hop.fault last.value)) := by
  obtain ⟨t, rounds, behind, left, ran⟩ := arrives.deepen.primary effects
  obtain ⟨u, failed⟩ := run_loop_nowhere (follows_navigate env (nest env room) effects) goesOn
    nowhere enough behind left
  rw [run_bind_error failed] at ran
  exact arrives.whole_error ran EvalError.noConfusion

/-- Behind a value of its own no member and no element is taken, but for the characters of a text. -/
theorem Arrives.whole_single
    (arrives : Arrives env room x hops last (hop.tokens ++ pathTokens rest) s)
    (single : last.value.isContainer = false)
    (noText : hop.mark = .openBracket → ∀ text, last.value ≠ .str text) (effects : Bool) :
    ∃ e, (whole env (room + 1) effects s).1 = .error e := by
  obtain ⟨t, rounds, behind, left, ran⟩ := arrives.deepen.primary effects
  have viewed : t.token = hop.mark := behind.token
  have stop : leadsOn last.value t.token = false := by
    rw [Bool.eq_false_iff]
    intro leads
    rcases leadsOn_cases leads with ⟨kind, _⟩ | ⟨kind | kind, _⟩ <;> rw [kind] at single <;>
      cases single
  rw [run_bind_ok ((navigate_stop stop rounds).trans (run_scalar single t))] at ran
  have failed : ∃ fault, postfixTail (nest env room) effects t.ahead { value := last.value } t =
      (.error (.symbol fault), t) := by
    have goes : isPostfix t.token = true := by
      rw [viewed]
      cases hop <;> rfl
    rw [ahead, postfixTail_step goes, viewed]
    cases hop with
    | member name => exact ⟨_, rfl⟩
    | element index =>
        have noText := noText rfl
        refine ⟨.notIndexable, ?_⟩
        cases kind : last.value with
        | str text => exact absurd kind (noText text)
        | _ => rfl
  obtain ⟨fault, failed⟩ := failed
  refine ⟨.symbol fault, ?_⟩
  have postfixed : Session.postfixed env (nest env room) false effects
      { s with depth := s.depth + 1 } = (.error (.symbol fault), t) := by
    rw [Session.postfixed, run_bind_ok ran, run_bind_ok (run_get t)]
    exact failed
  exact whole_of_postfixed_error arrives.startsPrimary postfixed EvalError.noConfusion

/-- A path has a value only if all of its steps can be taken, and then it is that of the last symbol. -/
theorem leads_of_whole {base : Symbol} {value : Value}
    (met : At (.word x.name :: pathTokens hops) s) (unbound : s.vars.get? x.name = none)
    (known : env.host.resolve x.name none 0 = some base) (enough : ∀ hop ∈ hops, hop.room ≤ room)
    (noText : ∀ front index back symbol, hops = front ++ .element index :: back →
      Leads env.host base front symbol → ∀ text, symbol.value ≠ .str text)
    (ran : (whole env (room + 1) effects s).1 = .ok value) :
    ∃ last, Leads env.host base hops last ∧ last.value = value := by
  have impossible {e : EvalError} (failed : (whole env (room + 1) effects s).1 = .error e) :
      False := by
    rw [failed] at ran
    cases ran
  -- where the steps get stuck there is an error, whatever they get stuck at
  rcases leads_or_stuck env.host base hops with
    ⟨last, leads⟩ | ⟨front, hop, rest, last, rfl, leads, stuck⟩
  · rw [← List.append_nil (pathTokens hops)] at met
    have arrives : Arrives env room x hops last [] s := ⟨met, unbound, ⟨base, known, leads⟩, enough⟩
    cases kind : last.value.isContainer with
    | true =>
        obtain ⟨e, failed⟩ := arrives.whole_container kind
          (leadsOn_eq_false Token.noConfusion Token.noConfusion _) effects
        exact (impossible failed).elim
    | false =>
        rw [arrives.whole_ok kind effects] at ran
        exact ⟨last, leads, Except.ok.inj ran⟩
  · rw [pathTokens_append] at met
    have arrives : Arrives env room x front last (hop.tokens ++ pathTokens rest) s :=
      ⟨met, unbound, ⟨base, known, leads⟩, fun _ member => enough _ (List.mem_append_left _ member)⟩
    have room' : hop.room ≤ room := enough _ (List.mem_append_right _ List.mem_cons_self)
    cases goesOn : leadsOn last.value hop.mark with
    | true => exact (impossible (arrives.whole_nowhere room' goesOn (stuck goesOn) effects)).elim
    | false =>
        cases kind : last.value.isContainer with
        | true =>
            obtain ⟨e, failed⟩ := arrives.whole_container kind goesOn effects
            exact (impossible failed).elim
        | false =>
            have noText' : hop.mark = .openBracket → ∀ text, last.value ≠ .str text := by
              intro isIndex
              cases hop with
              | member name => cases isIndex
              | element index => exact noText front index rest last rfl leads
            obtain ⟨e, failed⟩ := arrives.whole_single kind noText' effects
            exact (impossible failed).elim

end TemplateCalc.Session

namespace TemplateCalc.Calculator

open Session

variable {σ : Type} {env : Surroundings σ} {options : EvalOptions} {c : Calculator σ}

theorem result_of_scan {text : String} {token : Token} {rest : List Token}
    (scanned : Scan.scan options.rules text = ⟨token :: rest, none⟩) :
    (c.evaluate env options text).result =
      (whole env options.maxDepth options.sideEffects (c.opening token rest)).1 := by
  rw [(evaluate_eq env options c text).1, run_of_session (c.session_of_tokens scanned)]

theorem vars_of_scan {text : String} {token : Token} {rest : List Token}
    (scanned : Scan.scan options.rules text = ⟨token :: rest, none⟩) :
    (c.evaluate env options text).calculator.vars =
      (whole env options.maxDepth options.sideEffects (c.opening token rest)).2.vars := by
  rw [(evaluate_eq env options c text).2, run_of_session (c.session_of_tokens scanned)]

theorem at_opening (c : Calculator σ) (token : Token) (rest : List Token) :
    At (token :: rest) (c.opening token rest) :=
  ⟨rfl, rfl, rfl⟩

end TemplateCalc.Calculator
