import TemplateCalc.Proofs.Lockstep.Level

/-!
Operands, run side by side, and with them whole evaluations.

The names that the runs read come from words and quoted names in the text, so the lockstep knows
them. Behind an index, behind the arguments of a call and behind a parenthesis a closing bracket is
expected; a first run that was lost before does not find it.
-/

set_option autoImplicit false

namespace TemplateCalc.Session.Lockstep

variable {σ α : Type} {k : Lockstep σ} {opened : List Bracket} {s s' : Session σ}
  {effects effects' : Bool} {nested nested' : Nested σ} (env : Surroundings σ)

/-! ### Indices -/

theorem sim_close (lawful : k.Lawful) (b : Bracket) (met : k.related (b :: opened) s s')
    (wanted : Token → Bool) (fault : GrammarFault)
    (exactly : ∀ token, wanted token = true ↔ token = b.closing) :
    k.Sim never (expect wanted fault) (expect wanted fault) s s' (fun _ => k.related opened) := by
  have refuses (token : Token) (other : token ≠ b.closing) : wanted token = false := by
    rw [Bool.eq_false_iff]
    exact fun accepted => other ((exactly token).1 accepted)
  apply sim_expect lawful met wanted fault
  · exact refuses _ (by cases b <;> exact Token.noConfusion)
  · exact refuses _ (by cases b <;> exact Token.noConfusion)
  · intro same accepted
    exact lawful.leaving b met same ((exactly _).1 accepted)

theorem isCloseParen_iff (token : Token) : isCloseParen token = true ↔ token = .closeParen := by
  cases token <;> simp [isCloseParen]

theorem isCloseBracket_iff (token : Token) :
    isCloseBracket token = true ↔ token = .closeBracket := by
  cases token <;> simp [isCloseBracket]

theorem sim_open (lawful : k.Lawful) (b : Bracket) (met : k.related opened s s')
    (same : s'.token = s.token) (viewed : s.token = b.opening) :
    k.Sim never (discard advance) (discard advance) s s' (fun _ => k.related (b :: opened)) :=
  (lawful.entering b met same viewed).discard fun _ _ _ holds => holds

theorem sim_index (lawful : k.Lawful) (nesting : k.Nesting nested nested')
    (flags : k.flags effects effects') (fault : TypeFault) (met : k.related opened s s')
    (same : s'.token = s.token) (viewed : s.token = .openBracket) :
    k.Sim never (index nested effects fault) (index nested' effects' fault) s s'
      (fun _ => k.related opened) := by
  apply (sim_open lawful .square met same viewed).bind
  intro _ t t' _ _ met
  apply ((sim_comma lawful nesting flags met).orMissing lawful _).bind_or
  · intro operand t t' _ _ fine
    cases operand.value with
    | int n =>
        apply (sim_close lawful .square fine.2 _ _ isCloseBracket_iff).bind
        intro _ t t' _ _ met
        exact .of_pure met
    | _ => exact sim_throw lawful fine.2 _
  · intro operand t _ gone
    cases operand.value with
    | int n =>
        exact ⟨_, t, run_bind_error (lost_expect lawful gone _ _ rfl), lawful.lost_excused gone _⟩
    | _ => exact ⟨_, t, rfl, lawful.lost_excused gone _⟩

/-! ### Symbols of the host -/

theorem run_advance_bind (f : Token → Eval σ α) (s : Session σ) :
    (advance >>= f) s = (advance >>= fun _ => f s.token) s := by
  cases s with
  | mk token rest fault vars random dialog depth journal =>
      cases rest with
      | cons next rest => rfl
      | nil => cases fault <;> rfl

theorem sim_nameToken (lawful : k.Lawful) (met : k.related opened s s') {f f' : Token → Eval σ α}
    {Post : α → Session σ → Session σ → Prop} (e : EvalError)
    (other : ∀ token, subjectName? token = none → f token = throw e ∧ f' token = throw e)
    (name : ∀ t t', subjectName? s.token ≠ none → k.related opened t t' →
      k.Sim never (f s.token) (f' s.token) t t' Post) :
    k.Sim never (advance >>= f) (advance >>= f') s s' Post := by
  by_cases nameless : subjectName? s.token = none
  · have nameless' : subjectName? s'.token = none := by
      rcases lawful.view met with same | ⟨_, atComma, _⟩
      · rw [same, nameless]
      · rw [atComma]
        rfl
    have failing : k.Sim never (advance >>= fun _ => throw e) (advance >>= fun _ => throw e) s s'
        Post :=
      (lawful.stray e met nameless).weaken fun _ _ _ impossible => impossible.elim
    apply failing.of_run
    · rw [run_advance_bind, (other _ nameless).1]
    · rw [run_advance_bind, (other _ nameless').2]
  · have more : s.token ≠ .finish := by
      intro atEnd
      rw [atEnd] at nameless
      exact nameless rfl
    have same := lawful.same_of_ne_finish met more
    have plain : isPlain s.token = true := by
      cases viewed : s.token with
      | openParen | closeParen | openBracket | closeBracket | finish =>
          rw [viewed] at nameless
          exact absurd rfl nameless
      | _ => rfl
    have named : k.Sim never (advance >>= fun _ => f s.token) (advance >>= fun _ => f' s.token) s s'
        Post := by
      apply (lawful.plain met same plain).bind
      intro _ t t' _ _ met
      exact name t t' nameless met
    apply named.of_run
    · exact run_advance_bind f s
    · rw [run_advance_bind f' s', same]

theorem sim_memberNamed (lawful : k.Lawful) (met : k.related opened s s') (parent : Symbol)
    (name : String) :
    k.Sim never (memberNamed env parent name) (memberNamed env parent name) s s'
      (fun _ => k.related opened) := by
  apply (Sim.lookup lawful met env _ _ _).bind
  rintro found t t' _ _ ⟨_, met⟩
  cases found with
  | some symbol => exact .of_pure met
  | none => exact sim_throw lawful met _

theorem sim_member (lawful : k.Lawful) (met : k.related opened s s') (same : s'.token = s.token)
    (viewed : s.token = .dot) (parent : Symbol) :
    k.Sim never (member env parent) (member env parent) s s' (fun _ => k.related opened) := by
  apply (sim_pass lawful met same (by rw [viewed]; rfl)).bind
  intro _ t t' _ _ met
  apply sim_nameToken lawful met (.grammar .symbolExpected)
  · intro token none
    cases token with
    | word _ | quoted _ => cases none
    | _ => exact ⟨rfl, rfl⟩
  · intro u u' some met
    cases viewed : t.token with
    | word name | quoted name => exact sim_memberNamed env lawful met parent name
    | _ => exact sim_throw lawful met _

theorem sim_element (lawful : k.Lawful) (nesting : k.Nesting nested nested')
    (flags : k.flags effects effects') (met : k.related opened s s') (same : s'.token = s.token)
    (viewed : s.token = .openBracket) (parent : Symbol) :
    k.Sim never (element env nested effects parent) (element env nested' effects' parent) s s'
      (fun _ => k.related opened) := by
  apply (sim_index lawful nesting flags _ met same viewed).bind
  intro i t t' _ _ met
  split
  · exact sim_throw lawful met _
  · apply (Sim.lookup lawful met env _ _ _).bind
    rintro found t t' _ _ ⟨_, met⟩
    cases found with
    | some symbol => exact .of_pure met
    | none => exact sim_throw lawful met _

theorem sim_scalar (lawful : k.Lawful) (met : k.related opened s s') (value : Value) :
    k.Sim never (scalar value) (scalar value) s s' (fun _ => k.related opened) := by
  cases value with
  | struct | array | blob => exact sim_throw lawful met _
  | _ => exact .of_pure met

theorem sim_onward (lawful : k.Lawful) (nesting : k.Nesting nested nested')
    (flags : k.flags effects effects') (met : k.related opened s s') (same : s'.token = s.token)
    {symbol : Symbol} (leads : leadsOn symbol.value s.token = true) :
    k.Sim never (onward env nested effects symbol s.token)
      (onward env nested' effects' symbol s.token) s s' (fun _ => k.related opened) := by
  rcases token_of_leadsOn leads with viewed | viewed
  · rw [viewed]
    exact sim_member env lawful met same viewed symbol
  · rw [viewed]
    exact sim_element env lawful nesting flags met same viewed symbol

/-- Two runs along a path of members and elements. `rest` is what they do at its end. -/
theorem sim_path (lawful : k.Lawful) (nesting : k.Nesting nested nested')
    (flags : k.flags effects effects') {loop loop' : List Token → Symbol → Eval σ α}
    {rest : Symbol → Eval σ α}
    (goes : ∀ {s : Session σ} {symbol : Symbol}, leadsOn symbol.value s.token = true →
      ∀ round rounds, loop (round :: rounds) symbol s =
        (onward env nested effects symbol s.token >>= loop rounds) s)
    (goes' : ∀ {s : Session σ} {symbol : Symbol}, leadsOn symbol.value s.token = true →
      ∀ round rounds, loop' (round :: rounds) symbol s =
        (onward env nested' effects' symbol s.token >>= loop' rounds) s)
    (stops : ∀ {s : Session σ} {symbol : Symbol}, leadsOn symbol.value s.token = false →
      ∀ rounds, loop rounds symbol s = rest symbol s)
    (stops' : ∀ {s : Session σ} {symbol : Symbol}, leadsOn symbol.value s.token = false →
      ∀ rounds, loop' rounds symbol s = rest symbol s)
    (ends : ∀ {s s'} (symbol : Symbol), k.related opened s s' →
      k.Sim never (rest symbol) (rest symbol) s s' (fun _ => k.related opened))
    (symbol : Symbol) (met : k.related opened s s') :
    k.Sim never (loop s.ahead symbol) (loop' s'.ahead symbol) s s' (fun _ => k.related opened) := by
  apply sim_rounds (fun _ => k.related opened) ?_ symbol _ _ met (left_le_ahead s)
    (left_le_ahead s')
  intro s s' symbol rounds rounds' met enough enough'
  -- the runs see the same token where the path goes on; where it ends the second may see a comma
  cases leads : leadsOn symbol.value s.token with
  | true =>
      have more : s.token ≠ .finish := by
        rcases token_of_leadsOn leads with viewed | viewed <;> rw [viewed] <;>
          exact Token.noConfusion
      have same := lawful.same_of_ne_finish met more
      have more' : s'.token ≠ .finish := by rw [same]; exact more
      have leads' : leadsOn symbol.value s'.token = true := by rw [same, leads]
      obtain ⟨round, rounds, rfl⟩ := rounds_of_left enough more
      obtain ⟨round', rounds', rfl⟩ := rounds_of_left enough' more'
      refine .inr ⟨_, _, rounds, rounds', goes leads _ _, goes' leads' _ _, rfl, rfl, ?_, ?_, ?_⟩
      · intro a t ran
        exact strictAt_onward nesting.taking.consuming leads s a t rfl ran
      · intro a t ran
        exact strictAt_onward nesting.taking'.consuming leads' s' a t rfl ran
      · rw [same]
        exact sim_onward env lawful nesting flags met same leads
  | false =>
      have leads' : leadsOn symbol.value s'.token = false := by
        rcases lawful.view met with same | ⟨_, atComma, _⟩
        · rw [same, leads]
        · rw [atComma]
          cases symbol.value <;> rfl
      exact .inl ((ends symbol met).of_run (stops leads _) (stops' leads' _))

theorem sim_navigate (lawful : k.Lawful) (nesting : k.Nesting nested nested')
    (flags : k.flags effects effects') (symbol : Symbol) (met : k.related opened s s') :
    k.Sim never (navigate env nested effects s.ahead symbol)
      (navigate env nested' effects' s'.ahead symbol) s s' (fun _ => k.related opened) :=
  sim_path env lawful nesting flags navigate_step navigate_step navigate_stop navigate_stop
    (fun symbol met => sim_scalar lawful met symbol.value) symbol met

theorem sim_pathEnd (lawful : k.Lawful) (met : k.related opened s s') (symbol : Symbol) :
    k.Sim never (pathEnd symbol) (pathEnd symbol) s s' (fun _ => k.related opened) := by
  apply Sim.peek lawful met
  · intro _
    split
    · exact sim_throw lawful met _
    · exact sim_throw lawful met _
    · exact .of_pure met
  · intro _ _
    exact .of_pure met

theorem sim_pathFrom (lawful : k.Lawful) (nesting : k.Nesting nested nested')
    (flags : k.flags effects effects') (symbol : Symbol) (met : k.related opened s s') :
    k.Sim never (pathFrom env nested effects s.ahead symbol)
      (pathFrom env nested' effects' s'.ahead symbol) s s' (fun _ => k.related opened) :=
  sim_path env lawful nesting flags pathFrom_step pathFrom_step pathFrom_stop pathFrom_stop
    (fun symbol met => sim_pathEnd lawful met symbol) symbol met

/-! ### Names -/

theorem sim_indexedName (lawful : k.Lawful) (nesting : k.Nesting nested nested')
    (flags : k.flags effects effects') {name : String} (known : k.KnownName name)
    (met : k.related opened s s') :
    k.Sim never (indexedName nested effects name) (indexedName nested' effects' name) s s'
      (fun name t t' => k.known name ∧ k.related opened t t') := by
  apply Sim.peek lawful met
  · intro same
    cases viewed : s.token with
    | openBracket =>
        apply (sim_index lawful nesting flags _ met same viewed).bind
        intro i t t' _ _ met
        exact .of_pure ⟨known.2 i, met⟩
    | _ => exact .of_pure ⟨known.1, met⟩
  · intro _ _
    exact .of_pure ⟨known.1, met⟩

theorem sim_named (lawful : k.Lawful) (nesting : k.Nesting nested nested')
    (flags : k.flags effects effects') (stepWaits : Bool) {name : String}
    (known : k.KnownName name) (met : k.related opened s s') :
    k.Sim never (named env nested stepWaits effects name) (named env nested' stepWaits effects' name)
      s s' (k.Fine opened) := by
  have target {name : String} (value : Value) (known : k.known name) {t t' : Session σ}
      (met : k.related opened t t') : k.Fine opened { value, target := some name } t t' := by
    refine ⟨?_, met⟩
    intro other found
    cases found
    exact known
  apply (Sim.varValue? lawful met known.1).bind
  intro found t t' _ _ met
  cases found with
  | some value => exact .of_pure (target value known.1 met)
  | none =>
      apply (Sim.lookup lawful met env _ _ _).bind
      rintro symbol t t' _ _ ⟨_, met⟩
      cases symbol with
      | some symbol =>
          apply Sim.get
          apply (sim_navigate env lawful nesting flags symbol met).bind
          intro value t t' _ _ met
          exact .of_pure (fine_value met value)
      | none =>
          apply (sim_indexedName lawful nesting flags known met).bind
          rintro name t t' _ _ ⟨known, met⟩
          apply (Sim.varValue? lawful met known).bind
          intro found t t' _ _ met
          cases found with
          | some value => exact .of_pure (target value known met)
          | none =>
              apply Sim.peek lawful met
              · intro _
                split
                · exact .of_pure (target _ known met)
                · exact sim_throw lawful met _
              · intro _ _
                -- a lost run is at its end, where no name is let through but for a step that waits
                change k.Sim never
                  (if (stepWaits || false || false) = true then _ else _)
                  (if (stepWaits || false || false) = true then _ else _) t t' _
                split
                · exact .of_pure (target _ known met)
                · exact sim_throw lawful met _

theorem sim_isUnbound (lawful : k.Lawful) {word : String} (known : k.known word)
    (met : k.related opened s s') :
    k.Sim never (isUnbound env word) (isUnbound env word) s s' (fun _ => k.related opened) := by
  unfold isUnbound
  split
  · exact .of_pure met
  · apply (Sim.varValue? lawful met known).bind
    intro found t t' _ _ met
    cases found with
    | some value => exact .of_pure met
    | none =>
        apply (Sim.lookup lawful met env _ _ _).bind
        rintro symbol t t' _ _ ⟨_, met⟩
        exact .of_pure met

/-! ### Inquiries -/

theorem sim_subject (lawful : k.Lawful) (nesting : k.Nesting nested nested')
    (flags : k.flags effects effects') {name : String} (known : k.KnownName name)
    (met : k.related opened s s') :
    k.Sim never (subject env nested effects name) (subject env nested' effects' name) s s'
      (fun _ => k.related opened) := by
  apply (Sim.varValue? lawful met known.1).bind
  intro found t t' _ _ met
  cases found with
  | some value => exact .of_pure met
  | none =>
      apply (Sim.lookup lawful met env _ _ _).bind
      rintro symbol t t' _ _ ⟨_, met⟩
      cases symbol with
      | some symbol =>
          apply Sim.get
          apply (sim_pathFrom env lawful nesting flags symbol met).bind
          intro symbol t t' _ _ met
          exact .of_pure met
      | none =>
          apply (sim_indexedName lawful nesting flags known met).bind
          rintro name t t' _ _ ⟨known, met⟩
          apply (Sim.varValue? lawful met known).bind
          intro found t t' _ _ met
          cases found <;> exact .of_pure met

theorem sim_subjectName (lawful : k.Lawful) (met : k.related opened s s') :
    k.Sim never subjectName subjectName s s'
      (fun name t t' => k.KnownName name ∧ k.related opened t t') := by
  apply sim_nameToken lawful met (.grammar .symbolExpected)
  · intro token nameless
    rw [nameless]
    exact ⟨rfl, rfl⟩
  · intro t t' _ met'
    cases viewed : s.token with
    | word w =>
        obtain ⟨known, keyword, _⟩ := lawful.word met viewed
        refine .of_pure ⟨?_, met'⟩
        split
        · exact keyword (by assumption)
        · exact known
    | quoted w => exact .of_pure ⟨lawful.quoted met viewed, met'⟩
    | _ => exact sim_throw lawful met' _

theorem sim_inquire (lawful : k.Lawful) (nesting : k.Nesting nested nested')
    (flags : k.flags effects effects') (inquiry : Inquiry) (met : k.related opened s s') :
    k.Sim never (inquire env nested effects inquiry) (inquire env nested' effects' inquiry) s s'
      (k.Fine opened) := by
  -- `defined` without parentheses; the other inquiries refuse
  have bare : k.Sim never
      (if inquiry = .defined then do
          let name ← subjectName
          let found ← subject env nested effects name
          return { value := ← ofExcept (answer inquiry found) }
        else throw (.grammar (.openingExpected inquiry.name)))
      (if inquiry = .defined then do
          let name ← subjectName
          let found ← subject env nested' effects' name
          return { value := ← ofExcept (answer inquiry found) }
        else throw (.grammar (.openingExpected inquiry.name))) s s' (k.Fine opened) := by
    split
    · apply (sim_subjectName lawful met).bind
      rintro name t t' _ _ ⟨known, met⟩
      apply (sim_subject env lawful nesting flags known met).bind
      intro found t t' _ _ met
      apply (sim_ofExcept lawful met _).bind
      intro value t t' _ _ met
      exact .of_pure (fine_value met value)
    · exact sim_throw lawful met _
  apply Sim.peek lawful met
  · intro same
    cases viewed : s.token with
    | openParen =>
        apply (sim_open lawful .paren met same viewed).bind
        intro _ t t' _ _ met
        apply (sim_subjectName lawful met).bind
        rintro name t t' _ _ ⟨known, met⟩
        apply (sim_subject env lawful nesting flags known met).bind
        intro found t t' _ _ met
        apply (sim_close lawful .paren met _ _ isCloseParen_iff).bind
        intro _ t t' _ _ met
        apply (sim_ofExcept lawful met _).bind
        intro value t t' _ _ met
        exact .of_pure (fine_value met value)
    | _ => exact bare
  · intro _ _
    exact bare

/-! ### Function calls -/

/-- Two runs through the arguments of a call. There is a round for each argument, since each takes a
token and so does the comma behind it. -/
theorem sim_arguments (lawful : k.Lawful) (nesting : k.Nesting nested nested')
    (flags : k.flags effects effects') (f : Function) (args : List Value)
    (round round' : Token) (rounds rounds' : List Token) (met : k.related opened s s')
    (enough : s.left ≤ rounds.length + 1) (enough' : s'.left ≤ rounds'.length + 1) :
    k.Sim k.lost (arguments nested effects f (round :: rounds) args)
      (arguments nested' effects' f (round' :: rounds') args) s s' (fun _ => k.related opened) := by
  -- the induction is on the tokens that the first run has left: the two runs have different rounds
  induction measure : s.left using Nat.strongRecOn
    generalizing s s' args round round' rounds rounds' with
  | ind n ih =>
      apply ((sim_assign lawful nesting flags met).orMissing lawful _).bind
      intro operand t t' ran ran' fine
      have taken := (strict_assign nesting.taking).orMissing _ s operand t ran
      have taken' := (strict_assign nesting.taking').orMissing _ s' operand t' ran'
      apply (sim_ofExcept lawful fine.2 _).bind
      intro _ u u' checked checked' met
      have kept := Consumes.left_le (frame_left.closed.keeps_ofExcept _) checked
      have kept' := Consumes.left_le (frame_left.closed.keeps_ofExcept _) checked'
      -- behind an argument that no comma follows
      have ends : k.Sim k.lost
          (if (args ++ [operand.value]).length < f.arity.1 then throw f.commaError
            else return args ++ [operand.value] : Eval σ (List Value))
          (if (args ++ [operand.value]).length < f.arity.1 then throw f.commaError
            else return args ++ [operand.value]) u u' (fun _ => k.related opened) := by
        split
        · exact sim_throw lawful met _
        · exact .of_pure met
      apply Sim.peek lawful met
      · intro same
        cases viewed : u.token with
        | comma =>
            cases f.arity.2.all ((args ++ [operand.value]).length < ·) with
            | false => exact ends
            | true =>
                have more : u.token ≠ .finish := by rw [viewed]; exact Token.noConfusion
                have more' : u'.token ≠ .finish := by rw [same]; exact more
                apply (sim_pass lawful met same (by rw [viewed]; rfl)).bind
                intro _ v v' passed passed' met
                have shorter := left_pass_lt more passed
                have shorter' := left_pass_lt more' passed'
                cases rounds with
                | nil => simp only [List.length_nil] at enough; omega
                | cons round rounds =>
                    cases rounds' with
                    | nil => simp only [List.length_nil] at enough'; omega
                    | cons round' rounds' =>
                        simp only [List.length_cons] at enough enough'
                        exact ih v.left (by omega) _ _ _ _ _ met (by omega) (by omega) rfl
        | _ => exact ends
      · intro _ gone
        -- here the second run would go on behind its comma
        by_cases few : (args ++ [operand.value]).length < f.arity.1
        · exact .of_excused (congrFun (if_pos few) u) (lawful.lost_excused gone _)
        · exact .of_gone (congrFun (if_neg few) u) gone

theorem sim_ask (lawful : k.Lawful) (met : k.related opened s s') (f : Function)
    (kind : QuestionKind) (prompt : String) (question : Dialog σ → σ → Reply α σ) :
    k.Sim never (ask env f kind prompt question) (ask env f kind prompt question) s s'
      (fun _ => k.related opened) := by
  apply (Sim.note lawful met _).bind
  intro _ t t' _ _ met
  cases env.dialog with
  | none => exact sim_throw lawful met _
  | some dialog =>
      obtain ⟨same, replied⟩ := lawful.replying met
      apply Sim.get
      rw [same]
      apply (Sim.change (replied _)).bind
      intro _ t t' _ _ met
      apply (Sim.note lawful met _).bind
      intro _ t t' _ _ met
      split
      · exact .of_pure met
      · exact sim_throw lawful met _

theorem sim_hosted (lawful : k.Lawful) (flags : k.flags effects effects') {f : Function}
    (offered : k.offered f) (args : List Value) (met : k.related opened s s') :
    k.Sim never (hosted env effects f args) (hosted env effects' f args) s s'
      (fun _ => k.related opened) := by
  -- a question is put in both runs or in none
  have question {α : Type} (asking : asks f = true) (kind : QuestionKind) (prompt : String)
      (question : Dialog σ → σ → Reply α σ) (wrap : α → Value) (initial : Value) :
      k.Sim never
        (if effects then do return wrap (← ask env f kind prompt question) else return initial)
        (if effects' then do return wrap (← ask env f kind prompt question) else return initial) s s'
        (fun _ => k.related opened) := by
    obtain rfl := lawful.asking offered asking flags
    split
    · apply (sim_ask env lawful met f kind prompt question).bind
      intro a t t' _ _ met
      exact .of_pure met
    · exact .of_pure met
  cases f with
  | rand =>
      obtain ⟨same, drawn⟩ := lawful.drawing met
      apply Sim.get
      rw [same]
      apply (Sim.change (drawn _)).bind
      intro _ t t' _ _ met
      exact .of_pure met
  | get =>
      simp only [hosted]
      split
      · apply (sim_ofExcept lawful met _).bind
        intro bytes t t' _ _ met
        exact .of_pure met
      · exact sim_throw lawful met _
  | getInt => exact question rfl _ _ _ _ _
  | getString => exact question rfl _ _ _ _ _
  | getBool => exact question rfl _ _ _ _ _
  | _ => exact sim_throw lawful met _

theorem sim_applyFunction (lawful : k.Lawful) (flags : k.flags effects effects') {f : Function}
    (offered : k.offered f) (args : List Value) (met : k.related opened s s') :
    k.Sim never (applyFunction env effects f args) (applyFunction env effects' f args) s s'
      (fun _ => k.related opened) := by
  unfold applyFunction
  split
  · exact sim_ofExcept lawful met _
  · exact sim_hosted env lawful flags offered args met

theorem sim_closeCall (lawful : k.Lawful) (flags : k.flags effects effects') {f : Function}
    (offered : k.offered f) (args : List Value) (met : k.related (.paren :: opened) s s') :
    k.Sim never (closeCall env effects f args) (closeCall env effects' f args) s s'
      (k.Fine opened) := by
  apply Sim.peek lawful met
  · intro same
    cases viewed : s.token with
    | closeParen =>
        have leaving : k.Sim never (discard advance) (discard advance) s s'
            (fun _ => k.related opened) :=
          (lawful.leaving .paren met same viewed).discard fun _ _ _ holds => holds
        apply leaving.bind
        intro _ t t' _ _ met
        apply (sim_applyFunction env lawful flags offered args met).bind
        intro value t t' _ _ met
        exact .of_pure (fine_value met value)
    | _ => exact sim_throw lawful met _
  · intro _ _
    exact sim_throw lawful met _

theorem lost_closeCall (lawful : k.Lawful) (gone : k.lost s) (f : Function) (args : List Value) :
    closeCall env effects f args s = (.error (f.unclosedError args.length), s) := by
  rw [closeCall, run_bind_ok (run_peek s), lawful.lost_finish gone]
  rfl

theorem sim_call (lawful : k.Lawful) (nesting : k.Nesting nested nested')
    (flags : k.flags effects effects') {f : Function} (offered : k.offered f)
    (met : k.related opened s s') :
    k.Sim never (call env nested effects f) (call env nested' effects' f) s s'
      (k.Fine opened) := by
  apply Sim.peek lawful met
  · intro same
    cases viewed : s.token with
    | openParen =>
        apply (sim_open lawful .paren met same viewed).bind
        intro _ t t' _ _ met
        split
        · exact sim_closeCall env lawful flags offered [] met
        · apply Sim.get
          have arguments := sim_arguments lawful nesting flags f [] t.token t'.token t.rest t'.rest
            met (left_le_ahead t) (left_le_ahead t')
          apply arguments.bind_or
          · intro args t t' _ _ met
            exact sim_closeCall env lawful flags offered args met
          · intro args t _ gone
            exact ⟨_, t, lost_closeCall env lawful gone f args, lawful.lost_excused gone _⟩
    | _ => exact sim_throw lawful met _
  · intro _ _
    exact sim_throw lawful met _

/-! ### Operands -/

theorem sim_wordOperand (lawful : k.Lawful) (nesting : k.Nesting nested nested')
    (flags : k.flags effects effects') (stepWaits : Bool) {word : String}
    (known : k.KnownName word)
    (offered : ∀ f, Function.ofName? (Text.lowercase word) = some f → k.offered f)
    (met : k.related opened s s') :
    k.Sim never (wordOperand env nested stepWaits effects word)
      (wordOperand env nested' stepWaits effects' word) s s' (k.Fine opened) := by
  unfold wordOperand
  simp only
  split
  · exact .of_pure (fine_value met _)
  split
  · exact .of_pure (fine_value met _)
  split
  · exact .of_pure (fine_value met _)
  split
  · exact sim_throw lawful met _
  split
  · exact sim_inquire env lawful nesting flags _ met
  · exact sim_call env lawful nesting flags (offered _ (by assumption)) met
  · exact sim_named env lawful nesting flags stepWaits known met

theorem sim_primary (lawful : k.Lawful) (nesting : k.Nesting nested nested')
    (flags : k.flags effects effects') (stepWaits : Bool) (met : k.related opened s s') :
    k.Sim never (primary env nested stepWaits effects) (primary env nested' stepWaits effects') s s'
      (k.Fine opened) := by
  have constant (same : s'.token = s.token) (plain : isPlain s.token = true) (value : Value) :
      k.Sim never (do discard advance; return { value }) (do discard advance; return { value }) s s'
        (k.Fine opened) := by
    apply (sim_pass lawful met same plain).bind
    intro _ t t' _ _ met
    exact .of_pure (fine_value met value)
  apply Sim.peek lawful met
  · intro same
    cases viewed : s.token with
    | int n => exact constant same (by rw [viewed]; rfl) _
    | real x => exact constant same (by rw [viewed]; rfl) _
    | str text => exact constant same (by rw [viewed]; rfl) _
    | quoted name =>
        apply (sim_pass lawful met same (by rw [viewed]; rfl)).bind
        intro _ t t' _ _ met'
        exact sim_named env lawful nesting flags stepWaits (lawful.quoted met viewed) met'
    | word w =>
        obtain ⟨known, _, offered⟩ := lawful.word met viewed
        apply (sim_pass lawful met same (by rw [viewed]; rfl)).bind
        intro _ t t' _ _ met
        exact sim_wordOperand env lawful nesting flags stepWaits known offered met
    | openParen =>
        apply (sim_open lawful .paren met same viewed).bind
        intro _ t t' _ _ met
        apply ((sim_comma lawful nesting flags met).orMissing lawful _).bind_or
        · intro inner t t' _ _ fine
          apply (sim_close lawful .paren fine.2 _ _ isCloseParen_iff).bind
          intro _ t t' _ _ met
          exact .of_pure (fine_value met _)
        · intro inner t _ gone
          exact ⟨_, t, run_bind_error (lost_expect lawful gone _ _ rfl),
            lawful.lost_excused gone _⟩
    | _ => exact sim_throw lawful met _
  · intro _ _
    exact sim_throw lawful met _

theorem sim_postfixTurn (lawful : k.Lawful) (nesting : k.Nesting nested nested')
    (flags : k.flags effects effects') (operand : Operand) (fine : k.Fine opened operand s s')
    (same : s'.token = s.token) (goes : isPostfix s.token = true) :
    k.Sim never (postfixTurn nested effects operand s.token)
      (postfixTurn nested' effects' operand s.token) s s' (k.Fine opened) := by
  cases viewed : s.token with
  | openBracket =>
      simp only [postfixTurn]
      cases operand.value with
      | str text =>
          apply (sim_index lawful nesting flags _ fine.2 same viewed).bind
          intro i t t' _ _ met
          apply (sim_ofExcept lawful met _).bind
          intro value t t' _ _ met
          exact .of_pure (fine_value met value)
      | _ => exact sim_throw lawful fine.2 _
  | dot => exact sim_throw lawful fine.2 _
  | step step =>
      obtain rfl := lawful.writing fine.2 flags (by rw [viewed]; rfl)
      apply (sim_pass lawful fine.2 same (by rw [viewed]; rfl)).bind
      intro _ t t' _ _ met
      cases target : operand.target with
      | none => exact sim_throw lawful met _
      | some name =>
          cases operand.value with
          | int n =>
              apply (Sim.store lawful met _ (fine.1 name target) _).bind
              intro _ t t' _ _ met
              exact .of_pure (fine_value met _)
          | _ => exact sim_throw lawful met _
  | _ =>
      rw [viewed] at goes
      cases goes

theorem sim_postfixTail (lawful : k.Lawful) (nesting : k.Nesting nested nested')
    (flags : k.flags effects effects') (operand : Operand) (fine : k.Fine opened operand s s') :
    k.Sim never (postfixTail nested effects s.ahead operand)
      (postfixTail nested' effects' s'.ahead operand) s s' (k.Fine opened) := by
  apply sim_rounds (k.Fine opened) ?_ operand _ _ fine (left_le_ahead s) (left_le_ahead s')
  intro s s' operand rounds rounds' fine enough enough'
  cases goes : isPostfix s.token with
  | true =>
      have more : s.token ≠ .finish := by
        intro atEnd
        rw [atEnd] at goes
        cases goes
      have same := lawful.same_of_ne_finish fine.2 more
      have more' : s'.token ≠ .finish := by rw [same]; exact more
      have goes' : isPostfix s'.token = true := by rw [same, goes]
      obtain ⟨round, rounds, rfl⟩ := rounds_of_left enough more
      obtain ⟨round', rounds', rfl⟩ := rounds_of_left enough' more'
      refine .inr ⟨_, _, rounds, rounds', postfixTail_step goes _ _ _, postfixTail_step goes' _ _ _,
        rfl, rfl, fun _ _ ran => left_postfixTurn_lt nesting.taking.consuming operand goes ran,
        fun _ _ ran => left_postfixTurn_lt nesting.taking'.consuming operand goes' ran, ?_⟩
      rw [same]
      exact sim_postfixTurn lawful nesting flags operand fine same goes
  | false =>
      have goes' : isPostfix s'.token = false := by
        rcases lawful.view fine.2 with same | ⟨_, atComma, _⟩
        · rw [same, goes]
        · rw [atComma]
          rfl
      exact .inl ((Sim.of_pure fine).of_run (postfixTail_stop goes _ _)
        (postfixTail_stop goes' _ _))

theorem sim_postfixed (lawful : k.Lawful) (nesting : k.Nesting nested nested')
    (flags : k.flags effects effects') (stepWaits : Bool) (met : k.related opened s s') :
    k.Sim never (postfixed env nested stepWaits effects) (postfixed env nested' stepWaits effects')
      s s' (k.Fine opened) := by
  apply (sim_primary env lawful nesting flags stepWaits met).bind
  intro operand t t' _ _ fine
  apply Sim.get
  exact sim_postfixTail lawful nesting flags operand fine

theorem sim_prefixOp (lawful : k.Lawful) (nesting : k.Nesting nested nested')
    (flags : k.flags effects effects') (op : PrefixOp) (met : k.related opened s s')
    (same : s'.token = s.token) (plain : isPlain s.token = true) :
    k.Sim never (prefixOp nested effects op) (prefixOp nested' effects' op) s s'
      (k.Fine opened) := by
  apply (sim_pass lawful met same plain).bind
  intro _ t t' _ _ met
  apply ((nesting.sim Production.noConfusion met flags).orMissing lawful _).bind
  intro operand t t' _ _ fine
  apply (sim_ofExcept lawful fine.2 _).bind
  intro value t t' _ _ met
  exact .of_pure (fine_value met value)

theorem sim_preStep (lawful : k.Lawful) (nesting : k.Nesting nested nested')
    (flags : k.flags effects effects') (step : Step) (met : k.related opened s s')
    (same : s'.token = s.token) (viewed : s.token = .step step) :
    k.Sim never (preStep env nested effects step) (preStep env nested' effects' step) s s'
      (k.Fine opened) := by
  obtain rfl := lawful.writing met flags (by rw [viewed]; rfl)
  -- behind the step both runs make the same use of its operand
  have stepped (stepWaits : Bool) {t t' : Session σ} (met : k.related opened t t') :
      k.Sim never
        (do
          let operand ← tryCatch (nested (.prefixed stepWaits) effects')
            fun e => throw (e.orNoVariable step)
          applyPreStep effects' step operand)
        (do
          let operand ← tryCatch (nested' (.prefixed stepWaits) effects')
            fun e => throw (e.orNoVariable step)
          applyPreStep effects' step operand) t t' (k.Fine opened) := by
    apply ((nesting.sim Production.noConfusion met flags).rethrow _ ?_).bind
    · intro operand t t' _ _ fine
      unfold applyPreStep
      cases target : operand.target with
      | none => exact sim_throw lawful fine.2 _
      | some name =>
          cases operand.value with
          | int n =>
              apply (Sim.store lawful fine.2 _ (fine.1 name target) _).bind
              intro _ t t' _ _ met
              exact .of_pure (fine_value met _)
          | _ => exact sim_throw lawful fine.2 _
    · intro e excused
      cases e with
      | notImplemented => exact lawful.excused_missing excused _
      | _ => exact excused
  apply (sim_pass lawful met same (by rw [viewed]; rfl)).bind
  intro _ t t' _ _ met
  apply Sim.peek lawful met
  · intro _
    cases viewed : t.token with
    | word w =>
        apply (sim_isUnbound env lawful (lawful.word met viewed).1.1 met).bind
        intro stepWaits t t' _ _ met
        exact stepped stepWaits met
    | _ => exact stepped false met
  · intro _ _
    exact stepped false met

theorem sim_prefixed (lawful : k.Lawful) (nesting : k.Nesting nested nested')
    (flags : k.flags effects effects') (stepWaits : Bool) (met : k.related opened s s') :
    k.Sim never (prefixed env nested stepWaits effects) (prefixed env nested' stepWaits effects')
      s s' (k.Fine opened) := by
  apply Sim.peek lawful met
  · intro same
    split
    · rename_i viewed
      exact sim_prefixOp lawful nesting flags _ met same (by rw [viewed]; rfl)
    · rename_i viewed
      exact sim_prefixOp lawful nesting flags _ met same (by rw [viewed]; rfl)
    · rename_i viewed
      exact sim_prefixOp lawful nesting flags _ met same (by rw [viewed]; rfl)
    · rename_i viewed
      exact sim_prefixOp lawful nesting flags _ met same (by rw [viewed]; rfl)
    · rename_i viewed
      exact sim_preStep env lawful nesting flags _ met same viewed
    · exact sim_postfixed env lawful nesting flags stepWaits met
  · intro _ _
    exact sim_postfixed env lawful nesting flags stepWaits met

/-! ### Nesting -/

/-- One more level of room in both runs. -/
theorem Nesting.succ (lawful : k.Lawful)
    (harmless : ∀ t : Session σ, k.lost t → k.lost { t with depth := t.depth - 1 })
    {room room' : Nat} (nesting : k.Nesting (nest env room) (nest env room')) :
    k.Nesting (nest env (room + 1)) (nest env (room' + 1)) := by
  refine ⟨taking_nest env _, taking_nest env _, ?_, ?_⟩
  · intro p opened s s' effects effects' single met flags
    apply Sim.deeper lawful met fun _ gone => gone
    intro t t' met
    cases p with
    | comma => exact absurd rfl single
    | assign => exact sim_assign lawful nesting flags met
    | ternary => exact sim_ternary lawful nesting flags met
    | prefixed stepWaits => exact sim_prefixed env lawful nesting flags stepWaits met
  · intro opened s s' effects effects' met flags
    apply Sim.deeper lawful met harmless
    intro t t' met
    exact sim_comma lawful nesting flags met

/-- Two evaluators with room for the same number of levels. -/
theorem Lawful.nesting (lawful : k.Lawful)
    (harmless : ∀ t : Session σ, k.lost t → k.lost { t with depth := t.depth - 1 }) (room : Nat) :
    k.Nesting (nest env room) (nest env room) := by
  induction room with
  | zero =>
      refine ⟨taking_nest env 0, taking_nest env 0, ?_, ?_⟩
      · intro p opened s s' effects effects' _ met _
        exact sim_throw lawful met _
      · intro opened s s' effects effects' met _
        exact sim_throw lawful met _
  | succ room ih => exact ih.succ env lawful harmless

end TemplateCalc.Session.Lockstep
