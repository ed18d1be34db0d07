import TemplateCalc.Proofs.Loops
import TemplateCalc.Proofs.Settled

/-!
Conditions that an evaluation upholds.

A contract says what holds of the states between the steps, which errors may come out, which variables
may be set and which values count as sound. Its laws are about the few things that a step can do. The
other modules of this folder walk through the levels once and show that all of them uphold it.

A name without a value is read as the placeholder `none` in front of an assignment or a step, and this
travels up through the levels until the assignment or the step makes use of it. What is known of an
operand is therefore tied to the token behind it: it is sound, or it is the placeholder and such a
token is in view.

A second evaluation is followed along. Its nested productions behave like those of the first one where
the contract lets them be entered, and so the two agree.
-/

set_option autoImplicit false

namespace TemplateCalc.Session

variable {σ α β : Type}

/-- `holds` is what is true between the steps of an evaluation, and `starts` in front of the first
token of an operand. `enters` says where a nested production may begin; `ended` and `tolerated` where
an evaluation may fail and with which errors. Operands can have the names that are `known`, the
variables that are `writable` may be set, and they and the results have values that are `sound`. -/
structure Contract (σ : Type) where
  holds : Session σ → Prop
  starts : Session σ → Prop
  enters : Production → Session σ → Prop
  ended : Session σ → Prop
  tolerated : EvalError → Prop
  known : String → Prop
  writable : String → Prop
  sound : Value → Prop

/-- Whether the placeholder may stand for a production in front of a token. A step that waits in
front of an operand takes it, and so does an assignment behind a condition. -/
def awaited : Production → Token → Bool
  | .comma => fun _ => false
  | .assign => fun _ => false
  | .ternary => Token.isAssign
  | .prefixed stepWaits => fun token => stepWaits || token.isAssign

theorem state_of_advance {s t : Session σ} {token : Token} (ran : advance s = (.ok token, t)) :
    ∃ next rest, t = { s with token := next, rest := rest } := by
  obtain ⟨next, rest, moved⟩ := advance_state s
  rw [ran] at moved
  exact ⟨next, rest, moved⟩

theorem state_of_skip {s t : Session σ} {branch : Branch}
    (ran : skipOperand branch s = (.ok (), t)) :
    ∃ next rest, t = { s with token := next, rest := rest } := by
  obtain ⟨next, rest, moved⟩ := skipOperand_state branch s
  rw [ran] at moved
  exact ⟨next, rest, moved⟩

theorem skipBranch_ne_tooComplex {branch : Branch} {fault : Option LexicalFault}
    {brackets : List Bracket} {pending : Nat} {skipped : Bool} {token : Token} {rest : List Token}
    {e : EvalError}
    (failed : skipBranch branch fault brackets pending skipped token rest = .error e) :
    e ≠ .tooComplex := by
  have unclosed (b : Bracket) : b.unclosed ≠ .tooComplex := by
    cases b <;> exact EvalError.noConfusion
  cases verdict : judge branch brackets pending token with
  | halt =>
      rw [skipBranch_halt verdict] at failed
      split at failed <;> cases failed
      exact EvalError.noConfusion
  | refuse b =>
      rw [skipBranch_refuse verdict] at failed
      cases failed
      exact unclosed b
  | pass opened waiting =>
      cases rest with
      | nil =>
          rw [skipBranch_pass_nil verdict] at failed
          unfold skipEnd at failed
          split at failed <;> cases failed
          · exact EvalError.noConfusion
          · exact unclosed _
      | cons next rest =>
          rw [skipBranch_pass_cons verdict] at failed
          exact skipBranch_ne_tooComplex failed
termination_by rest

namespace Contract

variable (k : Contract σ)

structure Upholds (m m' : Eval σ α) (s : Session σ) (Post : α → Session σ → Prop) : Prop where
  same : m' s = m s
  ok : ∀ {a t}, m s = (.ok a, t) → Post a t
  error : ∀ {e t}, m s = (.error e, t) → k.tolerated e ∧ k.ended t

structure Fit (waits : Token → Bool) (a : Operand) (t : Session σ) : Prop where
  held : k.holds t
  target : ∀ {name}, a.target = some name → k.writable name
  value : k.sound a.value ∨ (a.value = .none ∧ waits t.token = true)

structure Lawful (env : Surroundings σ) : Prop where
  ending : ∀ {s}, k.holds s → k.ended s
  refusing : ∀ {s}, k.starts s → k.ended s
  operand : ∀ {s} (stepWaits : Bool), k.holds s → k.enters (.prefixed stepWaits) s
  /-- A branch and the right side of an assignment stand behind two tokens at least. -/
  branch : ∀ {s t} (p : Production), k.holds s → k.holds t → t.left + 2 ≤ s.left → k.enters p t
  passing : ∀ {s t token}, k.holds s → advance s = (.ok token, t) → k.holds t
  beginning : ∀ {s t token}, k.starts s → s.token ≠ .finish → advance s = (.ok token, t) →
    k.holds t
  skipping : ∀ {s t} (branch : Branch), k.holds s → skipOperand branch s = (.ok (), t) → k.holds t
  noting : ∀ {s} (event : Event), k.holds s → k.holds { s with journal := s.journal.push event }
  drawing : ∀ {s} (r : Random), k.holds s → k.holds { s with random := r }
  replying : ∀ {s} (d : σ), k.holds s → k.holds { s with dialog := d }
  setting : ∀ {s name value}, k.holds s → k.writable name → k.sound value →
    k.holds { s with vars := s.vars.set name value }
  failing : ∀ {e}, e ≠ .tooComplex → k.tolerated e
  /-- An excess of depth may only be reported by the host. -/
  bytes : ∀ {address count}, env.host.readBytes address count = .error .tooComplex →
    k.tolerated .tooComplex
  concrete : ∀ {value : Value}, value.isConcrete = true → k.sound value
  reading : ∀ {s name value}, k.holds s → s.vars.get? name = some value → k.sound value
  symbol : ∀ {name parent index} {found : Symbol},
    env.host.resolve name parent index = some found → found.value.isContainer = false →
    k.sound found.value
  word : ∀ {s w}, k.starts s → s.token = .word w → isKeyword (Text.lowercase w) = false → k.known w
  quoted : ∀ {s w}, k.starts s → s.token = .quoted w → k.known w
  found : ∀ {s name value}, k.holds s → k.known name → s.vars.get? name = some value →
    k.writable name
  /-- A name that neither the variables nor the host know is about to be given a value. -/
  unresolved : ∀ {name}, k.known name → env.host.resolve name none 0 = none →
    k.writable name ∧ ∀ i, k.writable (elementName name i)

variable {k} {s : Session σ} {env : Surroundings σ}

/-! ### Steps -/

theorem Upholds.of_ok {m m' : Eval σ α} {Post : α → Session σ → Prop} {a : α} {t : Session σ}
    (runs : m s = (.ok a, t)) (same : m' s = m s) (holds : Post a t) :
    k.Upholds m m' s Post where
  same := same
  ok ran := by
    rw [runs] at ran
    cases ran
    exact holds
  error ran := by
    rw [runs] at ran
    cases ran

theorem Upholds.of_error {m m' : Eval σ α} {Post : α → Session σ → Prop} {e : EvalError}
    {t : Session σ} (fails : m s = (.error e, t)) (same : m' s = m s) (tolerated : k.tolerated e)
    (ended : k.ended t) : k.Upholds m m' s Post where
  same := same
  ok ran := by
    rw [fails] at ran
    cases ran
  error ran := by
    rw [fails] at ran
    cases ran
    exact ⟨tolerated, ended⟩

theorem Upholds.of_pure {Post : α → Session σ → Prop} {a : α} (holds : Post a s) :
    k.Upholds (pure a) (pure a) s Post :=
  .of_ok rfl rfl holds

theorem Upholds.of_run {m m' n n' : Eval σ α} {Post : α → Session σ → Prop} {t : Session σ}
    (upholds : k.Upholds n n' t Post) (same : m s = n t) (same' : m' s = n' t) :
    k.Upholds m m' s Post where
  same := by rw [same, same', upholds.same]
  ok ran := upholds.ok (same ▸ ran)
  error ran := upholds.error (same ▸ ran)

theorem Upholds.bind {m m' : Eval σ α} {f f' : α → Eval σ β} {Mid : α → Session σ → Prop}
    {Post : β → Session σ → Prop} (first : k.Upholds m m' s Mid)
    (second : ∀ a t, m s = (.ok a, t) → Mid a t → k.Upholds (f a) (f' a) t Post) :
    k.Upholds (m >>= f) (m' >>= f') s Post := by
  cases outcome : m s with
  | mk result t =>
      have outcome' : m' s = (result, t) := first.same.trans outcome
      cases result with
      | error e =>
          obtain ⟨tolerated, ended⟩ := first.error outcome
          refine .of_error (run_bind_error outcome) ?_ tolerated ended
          rw [run_bind_error outcome, run_bind_error outcome']
      | ok a =>
          have rest := second a t outcome (first.ok outcome)
          exact rest.of_run (run_bind_ok outcome) (run_bind_ok outcome')

theorem Upholds.discard {m m' : Eval σ α} {Mid : α → Session σ → Prop}
    {Post : Unit → Session σ → Prop} (upholds : k.Upholds m m' s Mid)
    (implies : ∀ a t, Mid a t → Post () t) : k.Upholds (discard m) (discard m') s Post := by
  have both : k.Upholds (m >>= fun _ => pure ()) (m' >>= fun _ => pure ()) s Post := by
    apply upholds.bind
    intro a t _ holds
    exact .of_pure (implies a t holds)
  exact both.of_run (discard_eq_bind m s) (discard_eq_bind m' s)

theorem Upholds.rethrow {m m' : Eval σ α} {Post : α → Session σ → Prop}
    (upholds : k.Upholds m m' s Post) (change : EvalError → EvalError)
    (tolerated : ∀ e, k.tolerated e → k.tolerated (change e)) :
    k.Upholds (tryCatch m fun e => throw (change e)) (tryCatch m' fun e => throw (change e)) s
      Post where
  same := by rw [run_tryCatch, run_tryCatch, upholds.same]
  ok ran := upholds.ok (ok_of_rethrow ran)
  error ran := by
    obtain ⟨e, failed, rfl⟩ := error_of_rethrow ran
    obtain ⟨before, ended⟩ := upholds.error failed
    exact ⟨tolerated e before, ended⟩

theorem Upholds.orMissing (lawful : k.Lawful env) {m m' : Eval σ α} {Post : α → Session σ → Prop}
    (upholds : k.Upholds m m' s Post) (operand : MissingOperand) :
    k.Upholds (orMissing operand m) (orMissing operand m') s Post := by
  apply upholds.rethrow
  intro e before
  cases e with
  | notImplemented => exact lawful.failing EvalError.noConfusion
  | _ => exact before

theorem Upholds.peek {f f' : Token → Eval σ α} {Post : α → Session σ → Prop}
    (upholds : k.Upholds (f s.token) (f' s.token) s Post) :
    k.Upholds (peek >>= f) (peek >>= f') s Post :=
  upholds.of_run (run_bind_ok (run_peek s)) (run_bind_ok (run_peek s))

theorem Upholds.get {f f' : Session σ → Eval σ α} {Post : α → Session σ → Prop}
    (upholds : k.Upholds (f s) (f' s) s Post) : k.Upholds (get >>= f) (get >>= f') s Post :=
  upholds.of_run (run_bind_ok (run_get s)) (run_bind_ok (run_get s))

theorem Upholds.change {t : Session σ} (holds : k.holds t) :
    k.Upholds (set t : Eval σ PUnit) (set t) s (fun _ => k.holds) :=
  .of_ok rfl rfl holds

/-! ### What a step can do -/

theorem upholds_throw (lawful : k.Lawful env) (held : k.holds s) {e : EvalError}
    (shallow : e ≠ .tooComplex) {Post : α → Session σ → Prop} :
    k.Upholds (throw e) (throw e) s Post :=
  .of_error rfl rfl (lawful.failing shallow) (lawful.ending held)

theorem upholds_ofExcept (lawful : k.Lawful env) (held : k.holds s) {good : α → Prop}
    {result : Except EvalError α} (proper : Proper good result) :
    k.Upholds (ofExcept result) (ofExcept result) s (fun a t => good a ∧ k.holds t) := by
  cases result with
  | ok a => exact .of_pure ⟨proper.ok rfl, held⟩
  | error e => exact upholds_throw lawful held (proper.error rfl).2

theorem upholds_note (lawful : k.Lawful env) (held : k.holds s) (event : Event) :
    k.Upholds (note event) (note event) s (fun _ => k.holds) :=
  .of_ok rfl rfl (lawful.noting event held)

theorem upholds_store (lawful : k.Lawful env) (held : k.holds s) (effects : Bool) {name : String}
    {value : Value} (writable : k.writable name) (sound : k.sound value) :
    k.Upholds (store effects name value) (store effects name value) s (fun _ => k.holds) := by
  cases effects with
  | false => exact .of_pure held
  | true => exact .of_ok rfl rfl (lawful.setting held writable sound)

theorem upholds_lookup (lawful : k.Lawful env) (held : k.holds s) (name : String)
    (parent : Option Symbol) (index : Nat) :
    k.Upholds (lookup env name parent index) (lookup env name parent index) s
      (fun found t => found = env.host.resolve name parent index ∧ k.holds t) :=
  .of_ok rfl rfl ⟨rfl, lawful.noting _ held⟩

theorem upholds_varValue? (held : k.holds s) (name : String) :
    k.Upholds (varValue? name) (varValue? name) s
      (fun found t => found = t.vars.get? name ∧ k.holds t) :=
  .of_ok rfl rfl ⟨rfl, held⟩

/-- The next token comes into view, or everything is left as it is. -/
theorem upholds_advance_of (lawful : k.Lawful env) (ended : k.ended s)
    (moved : ∀ {token t}, advance s = (.ok token, t) → k.holds t) :
    k.Upholds advance advance s (fun _ => k.holds) := by
  cases others : s.rest with
  | cons next rest =>
      have ran := run_advance_cons others
      exact .of_ok ran rfl (moved ran)
  | nil =>
      cases broken : s.fault with
      | none =>
          have ran := run_advance_end others broken
          exact .of_ok ran rfl (moved ran)
      | some fault =>
          exact .of_error (run_advance_fault others broken) rfl
            (lawful.failing EvalError.noConfusion) ended

theorem upholds_advance (lawful : k.Lawful env) (held : k.holds s) :
    k.Upholds advance advance s (fun _ => k.holds) :=
  upholds_advance_of lawful (lawful.ending held) fun ran => lawful.passing held ran

theorem upholds_pass (lawful : k.Lawful env) (held : k.holds s) :
    k.Upholds (discard advance) (discard advance) s (fun _ => k.holds) :=
  (upholds_advance lawful held).discard fun _ _ holds => holds

theorem upholds_first (lawful : k.Lawful env) (begun : k.starts s) (more : s.token ≠ .finish) :
    k.Upholds (discard advance) (discard advance) s (fun _ => k.holds) := by
  have moved := upholds_advance_of lawful (lawful.refusing begun) fun ran =>
    lawful.beginning begun more ran
  exact moved.discard fun _ _ holds => holds

theorem upholds_expect (lawful : k.Lawful env) (held : k.holds s) (wanted : Token → Bool)
    (fault : GrammarFault) :
    k.Upholds (expect wanted fault) (expect wanted fault) s (fun _ => k.holds) := by
  apply Upholds.peek
  split
  · exact upholds_pass lawful held
  · exact upholds_throw lawful held EvalError.noConfusion

theorem upholds_skip (lawful : k.Lawful env) (held : k.holds s) (branch : Branch) :
    k.Upholds (skipOperand branch) (skipOperand branch) s (fun _ => k.holds) := by
  cases passed : skipBranch branch s.fault [] 0 false s.token s.rest with
  | ok found =>
      have ran := run_skipOperand_ok passed
      exact .of_ok ran rfl (lawful.skipping branch held ran)
  | error e =>
      exact .of_error (run_skipOperand_error passed) rfl
        (lawful.failing (skipBranch_ne_tooComplex passed)) (lawful.ending held)

/-! ### Operands -/

theorem fit_value (held : k.holds s) {waits : Token → Bool} {value : Value}
    (sound : k.sound value) : k.Fit waits { value } s where
  held := held
  target impossible := by cases impossible
  value := .inl sound

theorem fit_concrete (lawful : k.Lawful env) (held : k.holds s) {waits : Token → Bool}
    {value : Value} (concrete : value.isConcrete = true) : k.Fit waits { value } s :=
  fit_value held (lawful.concrete concrete)

theorem fit_target (held : k.holds s) {waits : Token → Bool} {name : String} {value : Value}
    (writable : k.writable name) (valued : k.sound value ∨ (value = .none ∧ waits s.token = true)) :
    k.Fit waits { value, target := some name } s where
  held := held
  target found := by
    cases found
    exact writable
  value := valued

theorem Fit.forget {waits : Token → Bool} {a : Operand} (fit : k.Fit waits a s) :
    k.Fit waits { value := a.value } s where
  held := fit.held
  target impossible := by cases impossible
  value := fit.value

/-- Where no assignment and no step is in view, the operand is no placeholder. -/
theorem Fit.sound {waits : Token → Bool} {a : Operand} (fit : k.Fit waits a s)
    (alone : waits s.token = false) : k.sound a.value := by
  rcases fit.value with sound | ⟨_, waiting⟩
  · exact sound
  · rw [alone] at waiting
    cases waiting

theorem Fit.narrow {waits waits' : Token → Bool} {a : Operand} (fit : k.Fit waits a s)
    (implies : waits s.token = true → waits' s.token = true) : k.Fit waits' a s where
  held := fit.held
  target := fit.target
  value := by
    rcases fit.value with sound | ⟨missing, waiting⟩
    · exact .inl sound
    · exact .inr ⟨missing, implies waiting⟩

end Contract

end TemplateCalc.Session
