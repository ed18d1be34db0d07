import TemplateCalc.Proofs.Progress

/-!
Two evaluations side by side.

A lockstep relates the states of two runs. Related runs see the same tokens, read the same values of
the variables they name and end in the same way; what else may differ is up to the lockstep. Its laws
are about the few things that a step can do. The other modules of this folder walk through the levels
once and show that both runs stay related through all of them.

Two ways of coming apart are provided for. An error of the first run can be excused: then nothing is
said about the second. And the first run can be lost: it stands at the end of its text where the
second one stands at a comma, inside an expression that still has to be closed.
-/

set_option autoImplicit false

namespace TemplateCalc.Session

variable {σ α β : Type}

def Bracket.opening : Bracket → Token
  | .paren => .openParen
  | .square => .openBracket

def Bracket.closing : Bracket → Token
  | .paren => .closeParen
  | .square => .closeBracket

def isPlain : Token → Bool
  | .openParen | .closeParen | .openBracket | .closeBracket | .finish => false
  | _ => true

def asks : Function → Bool
  | .getInt | .getString | .getBool => true
  | _ => false

structure Lockstep (σ : Type) where
  /-- The states of the two runs belong together; these brackets were opened meanwhile. -/
  related : List Bracket → Session σ → Session σ → Prop
  /-- The states in which two runs that fail may end. -/
  ended : Session σ → Session σ → Prop
  /-- Errors of the first run behind which nothing is said about the second. -/
  excused : EvalError → Prop
  /-- States of the first run that can only fail. -/
  lost : Session σ → Prop
  /-- Settings of the effects flag in the two runs. -/
  flags : Bool → Bool → Prop
  /-- Names that the runs may read and set. -/
  known : String → Prop
  /-- Functions that the runs may call. -/
  offered : Function → Prop

namespace Lockstep

variable (k : Lockstep σ)

/-- The second run follows the first: it gives the same value or the same error. `lost` says from
which end states of the first run on it need not. -/
structure Sim (lost : Session σ → Prop) (m m' : Eval σ α) (s s' : Session σ)
    (Post : α → Session σ → Session σ → Prop) : Prop where
  ok : ∀ {a t}, m s = (.ok a, t) → lost t ∨ ∃ t', m' s' = (.ok a, t') ∧ Post a t t'
  error : ∀ {e t}, m s = (.error e, t) →
    k.excused e ∨ ∃ t', m' s' = (.error e, t') ∧ k.ended t t'

def never : Session σ → Prop :=
  fun _ => False

def KnownName (name : String) : Prop :=
  k.known name ∧ ∀ i, k.known (elementName name i)

def Fine (opened : List Bracket) (a : Operand) (t t' : Session σ) : Prop :=
  (∀ name, a.target = some name → k.known name) ∧ k.related opened t t'

structure Lawful : Prop where
  /-- Both runs see the same token, or the first one is lost. -/
  view : ∀ {opened s s'}, k.related opened s s' →
    s'.token = s.token ∨ (s.token = .finish ∧ s'.token = .comma ∧ k.lost s)
  lost_finish : ∀ {s}, k.lost s → s.token = .finish
  lost_excused : ∀ {s}, k.lost s → ∀ e, k.excused e
  /-- A missing operand is excused only where everything is, because its error changes. -/
  excused_missing : k.excused .notImplemented → ∀ e, k.excused e
  ending : ∀ {opened s s'}, k.related opened s s' → k.ended s s'
  plain : ∀ {opened s s'}, k.related opened s s' → s'.token = s.token → isPlain s.token = true →
    k.Sim never advance advance s s' (fun _ => k.related opened)
  entering : ∀ {opened s s'} (b : Bracket), k.related opened s s' → s'.token = s.token →
    s.token = b.opening → k.Sim never advance advance s s' (fun _ => k.related (b :: opened))
  leaving : ∀ {opened s s'} (b : Bracket), k.related (b :: opened) s s' → s'.token = s.token →
    s.token = b.closing → k.Sim never advance advance s s' (fun _ => k.related opened)
  /-- A token that is passed over only to fail. -/
  stray : ∀ {γ : Type} {opened s s'} (e : EvalError), k.related opened s s' →
    subjectName? s.token = none →
    k.Sim never (advance >>= fun _ => throw e : Eval σ γ) (advance >>= fun _ => throw e) s s'
      (fun _ _ _ => False)
  skipFirst : ∀ {opened s s'}, k.related opened s s' →
    k.Sim k.lost (skipOperand .first) (skipOperand .first) s s' (fun _ => k.related opened)
  skipSecond : ∀ {opened s s'}, k.related opened s s' →
    k.Sim never (skipOperand .second) (skipOperand .second) s s' (fun _ => k.related opened)
  noting : ∀ {opened s s'} (event : Event), k.related opened s s' →
    k.related opened { s with journal := s.journal.push event }
      { s' with journal := s'.journal.push event }
  reading : ∀ {opened s s'} {name : String}, k.related opened s s' → k.known name →
    s'.vars.get? name = s.vars.get? name
  sinking : ∀ {opened s s'}, k.related opened s s' →
    k.related opened { s with depth := s.depth + 1 } { s' with depth := s'.depth + 1 }
  rising : ∀ {opened s s'}, k.related opened s s' →
    k.related opened { s with depth := s.depth - 1 } { s' with depth := s'.depth - 1 }
  rising_ended : ∀ {s s'}, k.ended s s' →
    k.ended { s with depth := s.depth - 1 } { s' with depth := s'.depth - 1 }
  word : ∀ {opened s s'} {w : String}, k.related opened s s' → s.token = .word w →
    k.KnownName w ∧ (isKeyword (Text.lowercase w) = true → k.KnownName (Text.lowercase w)) ∧
      ∀ f, Function.ofName? (Text.lowercase w) = some f → k.offered f
  quoted : ∀ {opened s s'} {w : String}, k.related opened s s' → s.token = .quoted w →
    k.KnownName w
  mask : ∀ {effects effects'} (other : Bool), k.flags effects effects' →
    k.flags (effects && other) (effects' && other)
  /-- In front of an assignment or a step, and for a function that asks, the settings agree. -/
  writing : ∀ {opened s s' effects effects'}, k.related opened s s' → k.flags effects effects' →
    (s.token.isAssign || s.token.isStep) = true → effects' = effects
  asking : ∀ {effects effects'} {f : Function}, k.offered f → asks f = true →
    k.flags effects effects' → effects' = effects
  setting : ∀ {opened s s'} {name : String} (value : Value), k.related opened s s' →
    k.known name →
    k.related opened { s with vars := s.vars.set name value }
      { s' with vars := s'.vars.set name value }
  drawing : ∀ {opened s s'}, k.related opened s s' → s'.random = s.random ∧
    ∀ r, k.related opened { s with random := r } { s' with random := r }
  replying : ∀ {opened s s'}, k.related opened s s' → s'.dialog = s.dialog ∧
    ∀ d, k.related opened { s with dialog := d } { s' with dialog := d }

variable {k} {lost : Session σ → Prop} {s s' : Session σ}

/-! ### Steps -/

theorem Sim.weaken {m m' : Eval σ α} {Post Weaker : α → Session σ → Session σ → Prop}
    (sim : k.Sim lost m m' s s' Post) (implies : ∀ a t t', Post a t t' → Weaker a t t') :
    k.Sim lost m m' s s' Weaker where
  ok ran := by
    rcases sim.ok ran with gone | ⟨t', ran', holds⟩
    · exact .inl gone
    · exact .inr ⟨t', ran', implies _ _ _ holds⟩
  error ran := sim.error ran

theorem Sim.mayLose {m m' : Eval σ α} {Post : α → Session σ → Session σ → Prop}
    (sim : k.Sim never m m' s s' Post) : k.Sim lost m m' s s' Post where
  ok ran := by
    rcases sim.ok ran with gone | found
    · exact gone.elim
    · exact .inr found
  error ran := sim.error ran

theorem Sim.of_pure {Post : α → Session σ → Session σ → Prop} {a : α} (holds : Post a s s') :
    k.Sim lost (pure a) (pure a) s s' Post where
  ok ran := by
    cases ran
    exact .inr ⟨s', rfl, holds⟩
  error ran := by cases ran

theorem Sim.of_throw {Post : α → Session σ → Session σ → Prop} (e : EvalError)
    (holds : k.ended s s') : k.Sim lost (throw e) (throw e) s s' Post where
  ok ran := by cases ran
  error ran := by
    cases ran
    exact .inr ⟨s', rfl, holds⟩

theorem Sim.of_ok {m m' : Eval σ α} {Post : α → Session σ → Session σ → Prop} {a : α}
    {t t' : Session σ} (runs : m s = (.ok a, t)) (runs' : m' s' = (.ok a, t'))
    (holds : Post a t t') : k.Sim lost m m' s s' Post where
  ok ran := by
    rw [runs] at ran
    cases ran
    exact .inr ⟨t', runs', holds⟩
  error ran := by
    rw [runs] at ran
    cases ran

theorem Sim.of_excused {m m' : Eval σ α} {Post : α → Session σ → Session σ → Prop} {e : EvalError}
    {t : Session σ} (fails : m s = (.error e, t)) (excused : k.excused e) :
    k.Sim lost m m' s s' Post where
  ok ran := by
    rw [fails] at ran
    cases ran
  error ran := by
    rw [fails] at ran
    cases ran
    exact .inl excused

theorem Sim.of_gone {m m' : Eval σ α} {Post : α → Session σ → Session σ → Prop} {a : α}
    {t : Session σ} (runs : m s = (.ok a, t)) (gone : lost t) : k.Sim lost m m' s s' Post where
  ok ran := by
    rw [runs] at ran
    cases ran
    exact .inl gone
  error ran := by
    rw [runs] at ran
    cases ran

theorem Sim.of_run {m m' n n' : Eval σ α} {Post : α → Session σ → Session σ → Prop}
    {t t' : Session σ} (sim : k.Sim lost n n' t t' Post) (same : m s = n t)
    (same' : m' s' = n' t') : k.Sim lost m m' s s' Post where
  ok ran := by
    rw [same] at ran
    rw [same']
    exact sim.ok ran
  error ran := by
    rw [same] at ran
    rw [same']
    exact sim.error ran

/-- Two steps in a row. If the first run can be lost between them, it must fail from there on. -/
theorem Sim.bind_or {m m' : Eval σ α} {f f' : α → Eval σ β} {astray : Session σ → Prop}
    {Mid : α → Session σ → Session σ → Prop} {Post : β → Session σ → Session σ → Prop}
    (first : k.Sim astray m m' s s' Mid)
    (second : ∀ a t t', m s = (.ok a, t) → m' s' = (.ok a, t') → Mid a t t' →
      k.Sim lost (f a) (f' a) t t' Post)
    (fails : ∀ a t, m s = (.ok a, t) → astray t → ∃ e u, f a t = (.error e, u) ∧ k.excused e) :
    k.Sim lost (m >>= f) (m' >>= f') s s' Post := by
  cases outcome : m s with
  | mk result t =>
      cases result with
      | error e =>
          rcases first.error outcome with excused | ⟨t', outcome', holds⟩
          · exact .of_excused (run_bind_error outcome) excused
          · exact (Sim.of_throw e holds).of_run (run_bind_error outcome) (run_bind_error outcome')
      | ok a =>
          rcases first.ok outcome with gone | ⟨t', outcome', holds⟩
          · obtain ⟨e, u, failed, excused⟩ := fails a t outcome gone
            exact .of_excused ((run_bind_ok outcome).trans failed) excused
          · exact (second a t t' outcome outcome' holds).of_run (run_bind_ok outcome)
              (run_bind_ok outcome')

theorem Sim.bind {m m' : Eval σ α} {f f' : α → Eval σ β}
    {Mid : α → Session σ → Session σ → Prop} {Post : β → Session σ → Session σ → Prop}
    (first : k.Sim never m m' s s' Mid)
    (second : ∀ a t t', m s = (.ok a, t) → m' s' = (.ok a, t') → Mid a t t' →
      k.Sim lost (f a) (f' a) t t' Post) :
    k.Sim lost (m >>= f) (m' >>= f') s s' Post :=
  first.bind_or second fun _ _ _ gone => gone.elim

theorem Sim.discard {m m' : Eval σ α} {Mid : α → Session σ → Session σ → Prop}
    {Post : Unit → Session σ → Session σ → Prop} (sim : k.Sim never m m' s s' Mid)
    (implies : ∀ a t t', Mid a t t' → Post () t t') :
    k.Sim never (discard m) (discard m') s s' Post := by
  have both : k.Sim never (m >>= fun _ => pure ()) (m' >>= fun _ => pure ()) s s' Post := by
    apply sim.bind
    intro a t t' _ _ holds
    exact .of_pure (implies a t t' holds)
  exact both.of_run (discard_eq_bind m s) (discard_eq_bind m' s')

theorem Sim.rethrow {m m' : Eval σ α} {Post : α → Session σ → Session σ → Prop}
    (sim : k.Sim lost m m' s s' Post) (change : EvalError → EvalError)
    (excused : ∀ e, k.excused e → k.excused (change e)) :
    k.Sim lost (tryCatch m fun e => throw (change e)) (tryCatch m' fun e => throw (change e)) s s'
      Post where
  ok ran := by
    rcases sim.ok (ok_of_rethrow ran) with gone | ⟨t', ran', holds⟩
    · exact .inl gone
    · exact .inr ⟨t', run_rethrow_ok ran', holds⟩
  error ran := by
    obtain ⟨e, failed, rfl⟩ := error_of_rethrow ran
    rcases sim.error failed with granted | ⟨t', failed', holds⟩
    · exact .inl (excused e granted)
    · exact .inr ⟨t', run_rethrow_error failed', holds⟩

theorem Sim.orMissing (lawful : k.Lawful) {m m' : Eval σ α}
    {Post : α → Session σ → Session σ → Prop} (sim : k.Sim lost m m' s s' Post)
    (operand : MissingOperand) :
    k.Sim lost (orMissing operand m) (orMissing operand m') s s' Post := by
  apply sim.rethrow
  intro e excused
  cases e with
  | notImplemented => exact lawful.excused_missing excused _
  | _ => exact excused

theorem Sim.ofExcept {Post : α → Session σ → Session σ → Prop} (result : Except EvalError α)
    (ended : k.ended s s') (holds : ∀ a, result = .ok a → Post a s s') :
    k.Sim lost (ofExcept result) (ofExcept result) s s' Post := by
  cases result with
  | ok a => exact .of_pure (holds a rfl)
  | error e => exact .of_throw e ended

theorem Sim.deeper (lawful : k.Lawful) {opened : List Bracket} {m m' : Eval σ Operand}
    (met : k.related opened s s') (harmless : ∀ t : Session σ, lost t →
      lost { t with depth := t.depth - 1 })
    (sim : ∀ t t', k.related opened t t' → k.Sim lost m m' t t' (k.Fine opened)) :
    k.Sim lost (deeper m) (deeper m') s s' (k.Fine opened) := by
  have inner := sim _ _ (lawful.sinking met)
  constructor
  · intro a t ran
    obtain ⟨u, outcome, rfl⟩ := exists_of_deeper ran
    rcases inner.ok outcome with gone | ⟨u', outcome', targets, related⟩
    · exact .inl (harmless u gone)
    · exact .inr ⟨{ u' with depth := u'.depth - 1 }, run_deeper_ok outcome', targets,
        lawful.rising related⟩
  · intro e t ran
    obtain ⟨u, outcome, rfl⟩ := exists_of_deeper ran
    rcases inner.error outcome with excused | ⟨u', outcome', ended⟩
    · exact .inl excused
    · exact .inr ⟨{ u' with depth := u'.depth - 1 }, run_deeper_error outcome',
        lawful.rising_ended ended⟩

/-! ### Looking at the state -/

variable {opened : List Bracket}

/-- Both runs look at their token: it is the same, or the first run is lost. -/
theorem Sim.peek (lawful : k.Lawful) (met : k.related opened s s') {f f' : Token → Eval σ α}
    {Post : α → Session σ → Session σ → Prop}
    (same : s'.token = s.token → k.Sim lost (f s.token) (f' s.token) s s' Post)
    (apart : s.token = .finish → k.lost s → k.Sim lost (f .finish) (f' .comma) s s' Post) :
    k.Sim lost (peek >>= f) (peek >>= f') s s' Post := by
  rcases lawful.view met with viewed | ⟨atEnd, atComma, gone⟩
  · apply (same viewed).of_run (run_bind_ok (run_peek s))
    rw [run_bind_ok (run_peek s'), viewed]
  · apply (apart atEnd gone).of_run
    · rw [run_bind_ok (run_peek s), atEnd]
    · rw [run_bind_ok (run_peek s'), atComma]

theorem Sim.get {f f' : Session σ → Eval σ α} {Post : α → Session σ → Session σ → Prop}
    (sim : k.Sim lost (f s) (f' s') s s' Post) :
    k.Sim lost (get >>= f) (get >>= f') s s' Post :=
  sim.of_run (run_bind_ok (run_get s)) (run_bind_ok (run_get s'))

theorem Sim.change {t t' : Session σ} (holds : k.related opened t t') :
    k.Sim lost (set t : Eval σ PUnit) (set t') s s' (fun _ => k.related opened) where
  ok ran := by
    cases ran
    exact .inr ⟨t', rfl, holds⟩
  error ran := by cases ran

theorem Sim.note (lawful : k.Lawful) (met : k.related opened s s') (event : Event) :
    k.Sim lost (note event) (note event) s s' (fun _ => k.related opened) where
  ok ran := by
    cases ran
    exact .inr ⟨_, rfl, lawful.noting event met⟩
  error ran := by cases ran

theorem Sim.store (lawful : k.Lawful) (met : k.related opened s s') (effects : Bool) {name : String}
    (known : k.known name) (value : Value) :
    k.Sim lost (store effects name value) (store effects name value) s s'
      (fun _ => k.related opened) := by
  cases effects with
  | false => exact .of_pure met
  | true =>
      constructor
      · intro a t ran
        cases ran
        exact .inr ⟨_, rfl, lawful.setting value met known⟩
      · intro e t ran
        cases ran

theorem Sim.lookup (lawful : k.Lawful) (met : k.related opened s s') (env : Surroundings σ)
    (name : String) (parent : Option Symbol) (index : Nat) :
    k.Sim lost (lookup env name parent index) (lookup env name parent index) s s'
      (fun found t t' => found = env.host.resolve name parent index ∧ k.related opened t t') where
  ok ran := by
    cases ran
    exact .inr ⟨_, rfl, rfl, lawful.noting _ met⟩
  error ran := by cases ran

theorem Sim.varValue? (lawful : k.Lawful) (met : k.related opened s s') {name : String}
    (known : k.known name) :
    k.Sim lost (varValue? name) (varValue? name) s s' (fun _ => k.related opened) where
  ok ran := by
    cases ran
    refine .inr ⟨s', ?_, met⟩
    change (Except.ok (s'.vars.get? name), s') = _
    rw [lawful.reading met known]
  error ran := by cases ran

theorem sim_throw (lawful : k.Lawful) (met : k.related opened s s') (e : EvalError)
    {Post : α → Session σ → Session σ → Prop} : k.Sim lost (throw e) (throw e) s s' Post :=
  .of_throw e (lawful.ending met)

theorem sim_ofExcept (lawful : k.Lawful) (met : k.related opened s s')
    (result : Except EvalError α) :
    k.Sim lost (Session.ofExcept result) (Session.ofExcept result) s s'
      (fun _ => k.related opened) :=
  .ofExcept result (lawful.ending met) fun _ _ => met

theorem sim_pass (lawful : k.Lawful) (met : k.related opened s s') (same : s'.token = s.token)
    (plain : isPlain s.token = true) :
    k.Sim never (discard advance) (discard advance) s s' (fun _ => k.related opened) :=
  (lawful.plain met same plain).discard fun _ _ _ holds => holds

/-- Both runs expect a token. `accepted` says what passing over it leads to. -/
theorem sim_expect (lawful : k.Lawful) (met : k.related opened s s') (wanted : Token → Bool)
    (fault : GrammarFault) {Post : Unit → Session σ → Session σ → Prop}
    (finish : wanted .finish = false) (comma : wanted .comma = false)
    (accepted : s'.token = s.token → wanted s.token = true →
      k.Sim never advance advance s s' (fun _ => Post ())) :
    k.Sim never (expect wanted fault) (expect wanted fault) s s' Post := by
  apply Sim.peek lawful met
  · intro same
    split
    · exact (accepted same (by assumption)).discard fun _ _ _ holds => holds
    · exact sim_throw lawful met _
  · intro _ _
    rw [finish, comma]
    exact sim_throw lawful met _

/-- A lost run does not find the token it expects. -/
theorem lost_expect (lawful : k.Lawful) (gone : k.lost s) (wanted : Token → Bool)
    (fault : GrammarFault) (finish : wanted .finish = false) :
    expect wanted fault s = (.error (.grammar fault), s) := by
  unfold expect
  rw [run_bind_ok (run_peek s), lawful.lost_finish gone, finish]
  rfl

end Lockstep

end TemplateCalc.Session
