import TemplateCalc.Proofs.Contract.Operand
import TemplateCalc.Proofs.Lockstep.Parallel

/-!
The limit of depth.

The depth counter goes up by one at each nested production and is back behind it. It never passes the
limit, and evaluation gives up only where it has reached it. A larger limit changes nothing for a
text that needs no more than the smaller one. And a text never needs more than one level for each of
its tokens, and one for what is missing behind them: an operand is entered in front of a token that
it takes, a branch and the right side of an assignment behind two.
-/

set_option autoImplicit false

namespace TemplateCalc

namespace Session

variable {σ : Type}

/-! ### Levels return with the depth they were called with -/

theorem frame_depth : Frame (fun s t : Session σ => t.depth = s.depth) (fun _ => True) where
  refl _ := rfl
  trans first second := second.trans first
  mask _ _ := trivial
  passing s := by
    obtain ⟨_, _, moved⟩ := advance_state s
    rw [moved]
  skipping branch s := by
    obtain ⟨_, _, moved⟩ := skipOperand_state branch s
    rw [moved]
  noting _ _ := rfl
  drawing _ _ := rfl
  setting _ _ _ _ := rfl
  asking _ _ _ := rfl
  sinking {s t} kept := by
    change t.depth - 1 = s.depth
    rw [kept]
    exact Nat.add_sub_cancel s.depth 1

abbrev Balanced {α : Type} (m : Eval σ α) : Prop :=
  Keeps (fun s t : Session σ => t.depth = s.depth) m

structure BalancedLevels (env : Surroundings σ) (nested : Nested σ) (effects : Bool) : Prop where
  production : ∀ p, Balanced (nested p effects)
  comma : Balanced (comma nested effects)
  assign : Balanced (assign nested effects)
  ternary : Balanced (ternary nested effects)
  disjunction : Balanced (disjunction nested effects)
  conjunction : Balanced (conjunction nested effects)
  binary : ∀ level, Balanced (binary nested effects level)
  prefixed : ∀ stepWaits, Balanced (prefixed env nested stepWaits effects)
  prefixOp : ∀ op, Balanced (prefixOp nested effects op)
  preStep : ∀ step, Balanced (preStep env nested effects step)
  postfixed : ∀ stepWaits, Balanced (postfixed env nested stepWaits effects)
  primary : ∀ stepWaits, Balanced (primary env nested stepWaits effects)
  wordOperand : ∀ stepWaits word, Balanced (wordOperand env nested stepWaits effects word)
  named : ∀ stepWaits name, Balanced (named env nested stepWaits effects name)
  isUnbound : ∀ word, Balanced (isUnbound env word)
  index : ∀ fault, Balanced (index nested effects fault)
  navigate : ∀ rounds symbol, Balanced (navigate env nested effects rounds symbol)
  inquire : ∀ inquiry, Balanced (inquire env nested effects inquiry)
  subject : ∀ name, Balanced (subject env nested effects name)
  call : ∀ f, Balanced (call env nested effects f)
  arguments : ∀ f rounds args, Balanced (arguments nested effects f rounds args)
  hosted : ∀ f args, Balanced (hosted env effects f args)
  skipOperand : ∀ branch, Balanced (skipOperand branch : Eval σ Unit)

theorem balancedLevels (env : Surroundings σ) (room : Nat) (effects : Bool) :
    BalancedLevels env (nest env room) effects := by
  have frame : Frame (fun s t : Session σ => t.depth = s.depth) (fun _ => True) := frame_depth
  -- the frame of the depth carries over to every level, so each field is one of its lemmas
  have nesting := frame.nesting env room
  exact
    { production := fun p => nesting p effects trivial
      comma := frame.closed.keeps_comma nesting trivial
      assign := frame.closed.keeps_assign nesting trivial
      ternary := frame.closed.keeps_ternary nesting trivial
      disjunction := frame.closed.keeps_disjunction nesting trivial
      conjunction := frame.closed.keeps_conjunction nesting trivial
      binary := frame.closed.keeps_binary nesting trivial
      prefixed := frame.closed.keeps_prefixed env (frame.hosting env) nesting trivial
      prefixOp := frame.closed.keeps_prefixOp nesting trivial
      preStep := frame.closed.keeps_preStep env nesting trivial
      postfixed := frame.closed.keeps_postfixed env (frame.hosting env) nesting trivial
      primary := frame.closed.keeps_primary env (frame.hosting env) nesting trivial
      wordOperand := frame.closed.keeps_wordOperand env (frame.hosting env) nesting trivial
      named := frame.closed.keeps_named env nesting trivial
      isUnbound := frame.closed.keeps_isUnbound env
      index := frame.closed.keeps_index nesting trivial
      navigate := frame.closed.keeps_navigate env nesting trivial
      inquire := frame.closed.keeps_inquire env nesting trivial
      subject := frame.closed.keeps_subject env nesting trivial
      call := frame.closed.keeps_call env (frame.hosting env) nesting trivial
      arguments := frame.closed.keeps_arguments nesting trivial
      hosted := fun f args => frame.hosting env _ f args trivial
      skipOperand := frame.skipping }

/-! ### The counter stays within the limit -/

/-- Nested productions with an alarm. It is raised in place of a level that would lead beyond the
limit, and in place of a refusal that comes before the limit is reached. -/
def watched (env : Surroundings σ) (limit : Nat) (alarm : Nested σ) : (room : Nat) → Nested σ
  | 0, p, effects => fun s =>
    if limit ≤ s.depth then (throw .tooComplex : Eval σ Operand) s else alarm p effects s
  | room + 1, p, effects => fun s =>
    if s.depth < limit then deeper (production env (watched env limit alarm room) p effects) s
    else alarm p effects s

def accounted (limit room : Nat) : Contract σ where
  holds s := s.depth + room = limit
  starts s := s.depth + room = limit
  enters _ s := s.depth + room = limit
  ended _ := True
  tolerated _ := True
  known _ := True
  writable _ := True
  sound _ := True

theorem accounted_lawful (env : Surroundings σ) (limit room : Nat) :
    (accounted limit room : Contract σ).Lawful env where
  ending _ := trivial
  refusing _ := trivial
  operand _ held := held
  branch _ _ held _ := held
  passing held ran := by
    obtain ⟨_, _, rfl⟩ := state_of_advance ran
    exact held
  beginning held _ ran := by
    obtain ⟨_, _, rfl⟩ := state_of_advance ran
    exact held
  skipping _ held ran := by
    obtain ⟨_, _, rfl⟩ := state_of_skip ran
    exact held
  noting _ held := held
  drawing _ held := held
  replying _ held := held
  setting held _ _ := held
  failing _ := trivial
  bytes _ := trivial
  concrete _ := trivial
  reading _ _ := trivial
  symbol _ _ := trivial
  word _ _ _ := trivial
  quoted _ _ := trivial
  found _ _ _ := trivial
  unresolved _ _ := ⟨trivial, fun _ => trivial⟩

theorem accounted_sinks (limit room : Nat) :
    Contract.Sinks (accounted limit (room + 1) : Contract σ) (accounted limit room) where
  entering {p s} entered := by
    have deeper : s.depth + 1 + room = limit := by
      change s.depth + (room + 1) = limit at entered
      omega
    cases p <;> exact deeper
  leaving {p s t} entered held := by
    change s.depth + (room + 1) = limit at entered
    change t.depth + room = limit at held
    change t.depth - 1 + (room + 1) = limit
    omega
  failing _ _ := trivial
  tolerated _ := trivial
  writable _ := trivial
  sound _ := trivial

theorem nesting_watched (env : Surroundings σ) (limit : Nat) (alarm : Nested σ) (room : Nat) :
    (accounted limit room).Nesting (nest env room) (watched env limit alarm room) := by
  apply Contract.nesting (accounted_lawful env limit) (accounted_sinks limit)
  · intro p s effects entered
    change s.depth + 0 = limit at entered
    refine ⟨trivial, trivial, ?_⟩
    exact if_pos (by omega)
  · intro room p s effects entered
    change s.depth + (room + 1) = limit at entered
    exact if_pos (by omega)

def watchedWhole (env : Surroundings σ) (limit : Nat) (alarm : Nested σ) (effects : Bool) :
    Eval σ Value := do
  let operand ← orMissing .expression (comma (watched env limit alarm limit) effects)
  complete operand

theorem watchedWhole_eq (env : Surroundings σ) (limit : Nat) (alarm : Nested σ) (effects : Bool)
    {s : Session σ} (atTop : s.depth = 0) :
    watchedWhole env limit alarm effects s = whole env limit effects s := by
  have held : (accounted limit limit).holds s := by
    change s.depth + limit = limit
    omega
  exact (Contract.upholds_expression (accounted_lawful env limit limit)
    (nesting_watched env limit alarm limit) held).same

/-! ### More room -/

/-- No hold on what runs out of room. -/
theorem compatible_room :
    Compatible (fun vars vars' => vars' = vars) (fun _ => True) (fun _ => True) (· = .tooComplex) :=
  compatible_eq trivial EvalError.noConfusion

theorem nesting_more_room (env : Surroundings σ) {room room' : Nat} (more : room ≤ room') :
    (parallel (fun vars vars' => vars' = vars) (fun _ => True) (fun _ => True)
      (· = .tooComplex)).Nesting (nest env room) (nest env room') := by
  have lawful := @parallel_lawful σ _ _ _ _ compatible_room
  induction room generalizing room' with
  | zero =>
      refine ⟨taking_nest env 0, taking_nest env room', ?_, ?_⟩
      · intro p opened s s' effects effects' _ _ _
        exact .of_excused rfl rfl
      · intro opened s s' effects effects' _ _
        exact .of_excused rfl rfl
  | succ room ih =>
      cases room' with
      | zero => omega
      | succ room' => exact (ih (by omega)).succ env lawful fun _ gone => gone

/-! ### Enough room -/

def roomy (env : Surroundings σ) (room : Nat) : Contract σ where
  holds s := s.left < room
  starts s := s.left ≤ room
  enters
    | .prefixed _ => fun s => s.left < room
    | _ => fun s => s.left + 1 < room
  ended _ := True
  tolerated e := e = .tooComplex →
    ∃ address count, env.host.readBytes address count = .error .tooComplex
  known _ := True
  writable _ := True
  sound _ := True

theorem roomy_lawful (env : Surroundings σ) (room : Nat) : (roomy env room).Lawful env where
  ending _ := trivial
  refusing _ := trivial
  operand _ held := held
  branch {s t} p held _ behind := by
    change s.left < room at held
    cases p with
    | prefixed stepWaits =>
        change t.left < room
        omega
    | _ =>
        change t.left + 1 < room
        omega
  passing {s t token} held ran := by
    change s.left < room at held
    have kept := left_advance_le s
    rw [ran] at kept
    exact Nat.lt_of_le_of_lt kept held
  beginning held more ran := Nat.lt_of_lt_of_le (left_advance_lt more ran) held
  skipping {s t} branch held ran := by
    change s.left < room at held
    have kept := left_skipOperand_le branch s
    rw [ran] at kept
    exact Nat.lt_of_le_of_lt kept held
  noting _ held := held
  drawing _ held := held
  replying _ held := held
  setting held _ _ := held
  failing shallow deep := absurd deep shallow
  bytes answer _ := ⟨_, _, answer⟩
  concrete _ := trivial
  reading _ _ := trivial
  symbol _ _ := trivial
  word _ _ _ := trivial
  quoted _ _ := trivial
  found _ _ _ := trivial
  unresolved _ _ := ⟨trivial, fun _ => trivial⟩

theorem roomy_sinks (env : Surroundings σ) (room : Nat) :
    Contract.Sinks (roomy env (room + 1)) (roomy env room) where
  entering {p s} entered := by
    cases p with
    | prefixed stepWaits => exact Nat.le_of_lt_succ entered
    | _ => exact Nat.lt_of_succ_lt_succ entered
  leaving _ held := Nat.lt_succ_of_lt held
  failing _ _ := trivial
  tolerated before := before
  writable _ := trivial
  sound _ := trivial

theorem nesting_roomy (env : Surroundings σ) (room : Nat) :
    (roomy env room).Nesting (nest env room) (nest env room) := by
  apply Contract.nesting (roomy_lawful env) (roomy_sinks env)
  · intro p s effects impossible
    cases p <;> exact absurd impossible (Nat.not_lt_zero _)
  · intro room p s effects _
    rfl

end Session

namespace Calculator

open Session

variable {σ : Type}

theorem evaluate_more_room (env : Surroundings σ) {options : EvalOptions} {c : Calculator σ}
    {text : String} {depth : Nat} (more : options.maxDepth ≤ depth)
    (within : (c.evaluate env options text).result ≠ .error .tooComplex) :
    (c.evaluate env { options with maxDepth := depth } text).result =
        (c.evaluate env options text).result ∧
      (c.evaluate env { options with maxDepth := depth } text).calculator =
        (c.evaluate env options text).calculator := by
  have beside := @evaluate_beside σ _ _ _ _ env options { options with maxDepth := depth } c c text
    compatible_room (nesting_more_room env more) rfl rfl rfl rfl rfl rfl (fun _ _ => trivial)
  obtain ⟨agreed, sameError⟩ := beside fun e failed deep => within (deep ▸ failed)
  exact ⟨agreed.result, agreed.calculator_eq sameError⟩

theorem evaluate_enough_room (env : Surroundings σ) {options : EvalOptions} {c : Calculator σ}
    {text : String} (enough : (Scan.scan options.rules text).tokens.length < options.maxDepth)
    (deep : (c.evaluate env options text).result = .error .tooComplex) :
    ∃ address count, env.host.readBytes address count = .error .tooComplex := by
  have start {s : Session σ} (opens : Opens c (Scan.scan options.rules text) s) :
      (roomy env options.maxDepth).holds s :=
    Nat.lt_of_le_of_lt opens.left enough
  obtain ⟨_, tolerated, _⟩ := evaluate_upholds (roomy_lawful env options.maxDepth)
    (nesting_roomy env options.maxDepth) start (fun _ => True) trivial fun _ => trivial
  exact tolerated deep rfl

/-- The depth counter is back behind every level, and it never passes the limit: no alarm that watches
over it is ever raised. An evaluation that stays within a limit goes the same way under every larger
one. And with a limit above the number of tokens no text is too complex, as long as the host does not
say so itself when it is asked for bytes. -/
theorem depth_guard_is_exact (env : Surroundings σ) :
    ((∀ room effects, BalancedLevels env (nest env room) effects) ∧
      (∀ (limit : Nat) (alarm : Nested σ) (room : Nat) (p : Production) (effects : Bool)
        (s : Session σ), s.depth + room = limit →
        watched env limit alarm room p effects s = nest env room p effects s) ∧
      ∀ (options : EvalOptions) (c : Calculator σ) (text : String) (s : Session σ),
        c.session? (Scan.scan options.rules text) = .ok s →
        s.depth = 0 ∧ ∀ alarm,
          watchedWhole env options.maxDepth alarm options.sideEffects s =
            whole env options.maxDepth options.sideEffects s) ∧
    (∀ (options : EvalOptions) (c : Calculator σ) (text : String) (depth : Nat),
      options.maxDepth ≤ depth → (c.evaluate env options text).result ≠ .error .tooComplex →
      (c.evaluate env { options with maxDepth := depth } text).result =
          (c.evaluate env options text).result ∧
        (c.evaluate env { options with maxDepth := depth } text).calculator =
          (c.evaluate env options text).calculator) ∧
    ((∀ address count, env.host.readBytes address count ≠ .error .tooComplex) →
      ∀ (options : EvalOptions) (c : Calculator σ) (text : String),
        (Scan.scan options.rules text).tokens.length < options.maxDepth →
        (c.evaluate env options text).result ≠ .error .tooComplex) := by
  -- balance, the alarms, more room, and room enough
  refine ⟨⟨balancedLevels env, ?_, ?_⟩, ?_, ?_⟩
  · intro limit alarm room p effects s accounted
    exact ((nesting_watched env limit alarm room).upholds effects accounted).same
  · intro options c text s opened
    have atTop := (opens_of_session? opened).depth
    exact ⟨atTop, fun alarm => watchedWhole_eq env _ alarm _ atTop⟩
  · intro options c text depth more within
    exact evaluate_more_room env more within
  · intro sparing options c text enough deep
    obtain ⟨address, count, complex⟩ := evaluate_enough_room env enough deep
    exact sparing address count complex

def isTooComplex : Except EvalError Value → Bool
  | .error .tooComplex => true
  | _ => false

theorem eq_tooComplex {result : Except EvalError Value} (deep : isTooComplex result = true) :
    result = .error .tooComplex := by
  unfold isTooComplex at deep
  split at deep
  · rfl
  · cases deep

/-- A text of seven tokens that needs five levels: four are too few, five give the same as a hundred,
and eight are enough without looking closer. -/
theorem signs_behind_assignments :
    let env : Surroundings Unit := ⟨Host.none, none, 0⟩
    let c : Calculator Unit := { random := Random.ofSeed 0, dialog := () }
    let text := "a = b = - - 1"
    let outcome (maxDepth : Nat) := c.evaluate env { maxDepth := maxDepth } text
    (outcome 4).result = .error .tooComplex ∧
      (outcome 5).result = .ok (.int 1) ∧ (outcome 100).result = .ok (.int 1) ∧
      (outcome 100).calculator = (outcome 5).calculator ∧
      (Scan.scan ({} : EvalOptions).rules text).tokens.length < 8 ∧
      (outcome 8).result ≠ .error .tooComplex ∧
      (∃ s, c.session? (Scan.scan ({} : EvalOptions).rules text) = .ok s ∧
        ∀ alarm, watchedWhole env 5 alarm true s = whole env 5 true s) ∧
      ∀ alarm, watched env 5 alarm 3 .assign true
          ⟨.operator (.arith .sub), [.int 1], none, {}, c.random, (), 2, #[]⟩ =
        nest env 3 .assign true
          ⟨.operator (.arith .sub), [.int 1], none, {}, c.random, (), 2, #[]⟩ := by
  intro env c text outcome
  obtain ⟨⟨_, unraised, unraisedWhole⟩, moreRoom, enoughRoom⟩ := depth_guard_is_exact env
  have tooFew : (outcome 4).result = .error .tooComplex := eq_tooComplex (by decide +kernel)
  have computed : (outcome 5).result = .ok (.int 1) := eq_of_isInt (by decide +kernel)
  have within : (outcome 5).result ≠ .error .tooComplex := by
    rw [computed]
    intro impossible
    cases impossible
  obtain ⟨result, calculator⟩ := moreRoom { maxDepth := 5 } c text 100 (by decide) within
  have few : (Scan.scan ({} : EvalOptions).rules text).tokens.length < 8 := by decide +kernel
  have readable : (c.session? (Scan.scan ({} : EvalOptions).rules text)).isOk = true := by
    decide +kernel
  refine ⟨tooFew, computed, result.trans computed, calculator, few, ?_, ?_, ?_⟩
  · exact enoughRoom nofun { maxDepth := 8 } c text few
  · cases opened : c.session? (Scan.scan ({} : EvalOptions).rules text) with
    | error fault =>
        rw [opened] at readable
        cases readable
    | ok s => exact ⟨s, rfl, (unraisedWhole { maxDepth := 5 } c text s opened).2⟩
  · intro alarm
    exact unraised 5 alarm 3 .assign true _ rfl

def isStopped : Except EvalError Value → Bool
  | .error e => e.stops
  | .ok _ => false

theorem eq_overflow {result : Except EvalError Value} (stopped : isStopped result = true) :
    result = .error (.domain .overflow) := by
  have only {e : EvalError} (stops : e.stops = true) : e = .domain .overflow := by
    unfold EvalError.stops at stops
    split at stops
    · rfl
    · cases stops
  rcases result with e | v
  · exact congrArg Except.error (only stopped)
  · cases stopped

/-- A host can call a short text too complex. And there is a text that comes to neither a value nor a
report, however deep it may nest. -/
theorem host_calls_short_text_too_complex :
    let env : Surroundings Unit :=
      ⟨{ Host.none with readBytes := fun _ _ => .error .tooComplex }, none, 0⟩
    let c : Calculator Unit := { random := Random.ofSeed 0, dialog := () }
    let result (maxDepth : Nat) (text : String) :=
      (c.evaluate env { maxDepth := maxDepth } text).result
    (Scan.scan ({} : EvalOptions).rules "get(0, 1)").tokens.length < 64 ∧
      result 64 "get(0, 1)" = .error .tooComplex ∧
      ∀ maxDepth, 2 ≤ maxDepth →
        result maxDepth "rol(1, 0x8000000000000000)" = .error (.domain .overflow) := by
  intro env c result
  refine ⟨by decide +kernel, eq_tooComplex (by decide +kernel), ?_⟩
  have stopped : result 2 "rol(1, 0x8000000000000000)" = .error (.domain .overflow) :=
    eq_overflow (by decide +kernel)
  intro maxDepth more
  have within : result 2 "rol(1, 0x8000000000000000)" ≠ .error .tooComplex := by
    rw [stopped]
    nofun
  exact (evaluate_more_room (c := c) env more within).1.trans stopped

end Calculator

end TemplateCalc
