import TemplateCalc.Proofs.Lockstep.Operand
import TemplateCalc.Proofs.Sequence
import TemplateCalc.Proofs.Variables

/-!
Two evaluations of one text.

Both runs see the same tokens to the end. They may start with different variables, as long as they
agree on those that the text can name, and they may have room for different numbers of levels. The
one thing that can keep the second run from following is an error of the first that is excused.
-/

set_option autoImplicit false

namespace TemplateCalc.Session

variable {σ α : Type}

/-! ### Whole evaluations in lockstep -/

namespace Lockstep

variable {k : Lockstep σ} {opened : List Bracket} {s s' : Session σ} {effects effects' : Bool}

theorem sim_complete (lawful : k.Lawful) (certain : ∀ t, ¬ k.lost t) (operand : Operand)
    (met : k.related opened s s') :
    k.Sim never (complete operand) (complete operand) s s' (fun _ => k.related opened) := by
  apply Sim.peek lawful met
  · intro _
    cases s.token with
    | finish => exact .of_pure met
    | _ => exact sim_throw lawful met _
  · intro _ gone
    exact absurd gone (certain s)

theorem sim_whole (env : Surroundings σ) {depth depth' : Nat} (lawful : k.Lawful)
    (certain : ∀ t, ¬ k.lost t) (nesting : k.Nesting (nest env depth) (nest env depth'))
    (flags : k.flags effects effects') (met : k.related opened s s') :
    k.Sim never (whole env depth effects) (whole env depth' effects') s s'
      (fun _ => k.related opened) := by
  apply ((sim_comma lawful nesting flags met).orMissing lawful _).bind_or
  · intro operand t t' _ _ fine
    exact sim_complete lawful certain operand fine.2
  · intro operand t _ gone
    exact absurd gone (certain t)

end Lockstep

/-! ### The same tokens -/

structure Agreeing (agree : Store → Store → Prop) (s s' : Session σ) : Prop where
  vars : agree s.vars s'.vars
  random : s'.random = s.random
  dialog : s'.dialog = s.dialog

structure Beside (agree : Store → Store → Prop) (admitted : Token → Prop) (s s' : Session σ) :
    Prop extends Agreeing agree s s' where
  token : s'.token = s.token
  rest : s'.rest = s.rest
  fault : s'.fault = s.fault
  tokens : ∀ token ∈ s.ahead, admitted token

def parallel (agree : Store → Store → Prop) (admitted : Token → Prop) (known : String → Prop)
    (excused : EvalError → Prop) : Lockstep σ where
  related _ := Beside agree admitted
  ended := Agreeing agree
  excused := excused
  lost _ := False
  flags effects effects' := effects' = effects
  known := known
  offered _ := True

/-- Variables that agree have the same value wherever an admitted token can look, and go on agreeing
when one of those is set. -/
structure Compatible (agree : Store → Store → Prop) (admitted : Token → Prop)
    (known : String → Prop) (excused : EvalError → Prop) : Prop where
  reading : ∀ {vars vars' name}, agree vars vars' → known name → vars'.get? name = vars.get? name
  setting : ∀ {vars vars' name} (value : Value), agree vars vars' → known name →
    agree (vars.set name value) (vars'.set name value)
  word : ∀ {w}, admitted (.word w) → (known w ∧ ∀ i, known (elementName w i)) ∧
    (isKeyword (Text.lowercase w) = true →
      known (Text.lowercase w) ∧ ∀ i, known (elementName (Text.lowercase w) i))
  quoted : ∀ {w}, admitted (.quoted w) → known w ∧ ∀ i, known (elementName w i)
  finish : admitted .finish
  missing : ¬ excused .notImplemented

/-- The same variables, whatever is read or set. -/
theorem compatible_eq {admitted : Token → Prop} {excused : EvalError → Prop}
    (finish : admitted .finish) (missing : ¬ excused .notImplemented) :
    Compatible (fun vars vars' => vars' = vars) admitted (fun _ => True) excused where
  reading same _ := by rw [same]
  setting value same _ := by rw [same]
  word _ := ⟨⟨trivial, fun _ => trivial⟩, fun _ => ⟨trivial, fun _ => trivial⟩⟩
  quoted _ := ⟨trivial, fun _ => trivial⟩
  finish := finish
  missing := missing

section Parallel

variable {agree : Store → Store → Prop} {admitted : Token → Prop} {known : String → Prop}
  {excused : EvalError → Prop} {s s' : Session σ}

theorem Beside.move (met : Beside agree admitted s s') {token : Token} {rest : List Token}
    (seen : ∀ other ∈ token :: rest, other ∈ s.ahead ∨ other = .finish)
    (finish : admitted .finish) :
    Beside agree admitted { s with token := token, rest := rest }
      { s' with token := token, rest := rest } := by
  refine ⟨⟨met.vars, met.random, met.dialog⟩, rfl, rfl, met.fault, ?_⟩
  intro other member
  rcases seen other member with before | rfl
  · exact met.tokens other before
  · exact finish

theorem Beside.advance (met : Beside agree admitted s s') (finish : admitted .finish) :
    (parallel agree admitted known excused).Sim Lockstep.never advance advance s s'
      (fun _ => Beside agree admitted) := by
  have seen := frame_ahead.passing s
  cases others : s.rest with
  | cons next rest =>
      rw [run_advance_cons others] at seen
      refine .of_ok (run_advance_cons others) ?_ (met.move seen finish)
      rw [run_advance_cons (met.rest.trans others), met.token]
  | nil =>
      cases broken : s.fault with
      | none =>
          rw [run_advance_end others broken] at seen
          refine .of_ok (run_advance_end others broken) ?_ (met.move seen finish)
          rw [run_advance_end (met.rest.trans others) (met.fault.trans broken), met.token]
      | some fault =>
          apply (Lockstep.Sim.of_throw (.lexical fault) met.toAgreeing).of_run
          · exact run_advance_fault others broken
          · exact run_advance_fault (met.rest.trans others) (met.fault.trans broken)

theorem Beside.skip (met : Beside agree admitted s s') (finish : admitted .finish)
    (branch : Branch) :
    (parallel agree admitted known excused).Sim Lockstep.never (skipOperand branch)
      (skipOperand branch) s s' (fun _ => Beside agree admitted) := by
  have same : skipBranch branch s'.fault [] 0 false s'.token s'.rest =
      skipBranch branch s.fault [] 0 false s.token s.rest := by
    rw [met.fault, met.token, met.rest]
  cases passed : skipBranch branch s.fault [] 0 false s.token s.rest with
  | ok found =>
      refine .of_ok (run_skipOperand_ok passed) (run_skipOperand_ok (same.trans passed))
        (met.move ?_ finish)
      intro other member
      exact mem_of_skips (skips_of_skipBranch passed) member
  | error e =>
      apply (Lockstep.Sim.of_throw e met.toAgreeing).of_run
      · exact run_skipOperand_error passed
      · exact run_skipOperand_error (same.trans passed)

theorem parallel_lawful (compatible : Compatible agree admitted known excused) :
    (parallel agree admitted known excused : Lockstep σ).Lawful where
  view met := .inl met.token
  lost_finish gone := gone.elim
  lost_excused gone := gone.elim
  excused_missing granted := absurd granted compatible.missing
  ending met := met.toAgreeing
  plain met _ _ := met.advance compatible.finish
  entering _ met _ _ := met.advance compatible.finish
  leaving _ met _ _ := met.advance compatible.finish
  stray e met _ := (met.advance compatible.finish).bind fun _ _ _ _ _ met =>
    .of_throw e met.toAgreeing
  skipFirst met := (met.skip compatible.finish .first).mayLose
  skipSecond met := met.skip compatible.finish .second
  noting _ met := ⟨⟨met.vars, met.random, met.dialog⟩, met.token, met.rest, met.fault, met.tokens⟩
  reading met isKnown := compatible.reading met.vars isKnown
  sinking met := ⟨⟨met.vars, met.random, met.dialog⟩, met.token, met.rest, met.fault, met.tokens⟩
  rising met := ⟨⟨met.vars, met.random, met.dialog⟩, met.token, met.rest, met.fault, met.tokens⟩
  rising_ended agreeing := ⟨agreeing.vars, agreeing.random, agreeing.dialog⟩
  word {opened s s' w} met viewed := by
    have isAdmitted : admitted (.word w) := viewed ▸ met.tokens s.token List.mem_cons_self
    obtain ⟨name, keyword⟩ := compatible.word isAdmitted
    exact ⟨name, keyword, fun _ _ => trivial⟩
  quoted {opened s s' w} met viewed := by
    have isAdmitted : admitted (.quoted w) := viewed ▸ met.tokens s.token List.mem_cons_self
    exact compatible.quoted isAdmitted
  mask other same := congrArg (· && other) same
  writing _ same _ := same
  asking _ _ same := same
  setting value met isKnown := ⟨⟨compatible.setting value met.vars isKnown, met.random, met.dialog⟩,
    met.token, met.rest, met.fault, met.tokens⟩
  drawing met := ⟨met.random, fun _ =>
    ⟨⟨met.vars, rfl, met.dialog⟩, met.token, met.rest, met.fault, met.tokens⟩⟩
  replying met := ⟨met.dialog, fun _ =>
    ⟨⟨met.vars, met.random, rfl⟩, met.token, met.rest, met.fault, met.tokens⟩⟩

/-- Where the first run ends with a value or with an error that is not excused, the second one ends
in the same way. -/
theorem Beside.outcome {m m' : Eval σ α}
    (sim : (parallel agree admitted known excused).Sim Lockstep.never m m' s s'
      (fun _ => Beside agree admitted))
    (kept : ∀ e, (m s).1 = .error e → ¬ excused e) :
    (m' s').1 = (m s).1 ∧ Agreeing agree (m s).2 (m' s').2 := by
  cases ran : m s with
  | mk result t =>
      rw [ran] at kept
      cases result with
      | ok a =>
          rcases sim.ok ran with gone | ⟨t', ran', met⟩
          · exact gone.elim
          · rw [ran']
            exact ⟨rfl, met.toAgreeing⟩
      | error e =>
          rcases sim.error ran with granted | ⟨t', ran', agreeing⟩
          · exact absurd granted (kept e rfl)
          · rw [ran']
            exact ⟨rfl, agreeing⟩

end Parallel

end TemplateCalc.Session

namespace TemplateCalc.Calculator

open Session

variable {σ : Type} {agree : Store → Store → Prop} {admitted : Token → Prop}
  {known : String → Prop} {excused : EvalError → Prop}

/-! ### One text on two calculators -/

theorem session?_beside {c c' : Calculator σ} {reading : Scan.Reading}
    (vars : agree c.vars c'.vars) (random : c'.random = c.random) (dialog : c'.dialog = c.dialog)
    (tokens : ∀ token ∈ reading.tokens, admitted token) (finish : admitted .finish) :
    (∃ fault, c.session? reading = .error fault ∧ c'.session? reading = .error fault) ∨
      ∃ s s', c.session? reading = .ok s ∧ c'.session? reading = .ok s' ∧
        Beside agree admitted s s' := by
  rcases reading with ⟨_ | ⟨token, rest⟩, fault⟩
  · cases fault with
    | some fault => exact .inl ⟨fault, rfl, rfl⟩
    | none =>
        refine .inr ⟨_, _, rfl, rfl, ⟨vars, random, dialog⟩, rfl, rfl, rfl, ?_⟩
        intro other member
        rw [List.mem_singleton.mp member]
        exact finish
  · exact .inr ⟨_, _, rfl, rfl, ⟨vars, random, dialog⟩, rfl, rfl, rfl, tokens⟩

structure Agreed (agree : Store → Store → Prop) (outcome outcome' : Outcome σ) : Prop where
  result : outcome'.result = outcome.result
  vars : agree outcome.calculator.vars outcome'.calculator.vars
  random : outcome'.calculator.random = outcome.calculator.random
  dialog : outcome'.calculator.dialog = outcome.calculator.dialog

theorem Agreed.calculator_eq {outcome outcome' : Outcome σ}
    (agreed : Agreed (fun vars vars' => vars' = vars) outcome outcome')
    (sameError : outcome'.calculator.lastError = outcome.calculator.lastError) :
    outcome'.calculator = outcome.calculator := by
  obtain ⟨_, ⟨vars, random, dialog, lastError⟩, _⟩ := outcome
  obtain ⟨_, ⟨vars', random', dialog', lastError'⟩, _⟩ := outcome'
  cases agreed.vars
  cases agreed.random
  cases agreed.dialog
  cases sameError
  rfl

variable {env : Surroundings σ} {options options' : EvalOptions} {c c' : Calculator σ}
  {text : String}

/-- Two runs of the same tokens that agree as long as no error is excused. -/
theorem run_of_sim
    (sim : ∀ {s s' : Session σ}, Beside agree admitted s s' →
      (parallel agree admitted known excused).Sim Lockstep.never
        (whole env options.maxDepth options.sideEffects)
        (whole env options'.maxDepth options'.sideEffects) s s' (fun _ => Beside agree admitted))
    (finish : admitted .finish) (rules : options'.rules = options.rules)
    (vars : agree c.vars c'.vars) (random : c'.random = c.random) (dialog : c'.dialog = c.dialog)
    (tokens : ∀ token ∈ (Scan.scan options.rules text).tokens, admitted token)
    (kept : ∀ e, (c.run env options text).result = .error e → ¬ excused e) :
    Agreed agree (c.run env options text) (c'.run env options' text) := by
  rcases session?_beside vars random dialog tokens finish with
    ⟨fault, broken, broken'⟩ | ⟨s, s', opened, opened', met⟩
  · rw [← rules] at broken'
    rw [run_of_fault broken, run_of_fault broken']
    exact ⟨rfl, vars, random, dialog⟩
  · rw [← rules] at opened'
    rw [run_of_session opened] at kept ⊢
    rw [run_of_session opened']
    obtain ⟨same, agreeing⟩ := Beside.outcome (sim met) kept
    exact ⟨same, agreeing.vars, agreeing.random, agreeing.dialog⟩

theorem evaluate_of_sim
    (sim : ∀ {s s' : Session σ}, Beside agree admitted s s' →
      (parallel agree admitted known excused).Sim Lockstep.never
        (whole env options.maxDepth options.sideEffects)
        (whole env options'.maxDepth options'.sideEffects) s s' (fun _ => Beside agree admitted))
    (finish : admitted .finish) (rules : options'.rules = options.rules)
    (messages : options'.legacyMessages = options.legacyMessages)
    (vars : agree c.vars c'.vars) (random : c'.random = c.random) (dialog : c'.dialog = c.dialog)
    (tokens : ∀ token ∈ (Scan.scan options.rules text).tokens, admitted token)
    (kept : ∀ e, (c.evaluate env options text).result = .error e → ¬ excused e) :
    Agreed agree (c.evaluate env options text) (c'.evaluate env options' text) ∧
      (c'.evaluate env options' text).calculator.lastError =
        (c.evaluate env options text).calculator.lastError := by
  obtain ⟨result, calculator⟩ := evaluate_eq env options c text
  obtain ⟨result', calculator'⟩ := evaluate_eq env options' c' text
  rw [result] at kept
  have agreed := run_of_sim sim finish rules vars random dialog tokens kept
  constructor
  · constructor
    · rw [result, result', agreed.result]
    · rw [calculator, calculator']
      exact agreed.vars
    · rw [calculator, calculator', agreed.random]
    · rw [calculator, calculator', agreed.dialog]
  · rw [calculator, calculator', agreed.result, messages]

/-- The same text on two calculators whose variables agree, with room for different numbers of
levels. -/
theorem evaluate_beside (compatible : Compatible agree admitted known excused)
    (nesting : (parallel agree admitted known excused).Nesting (nest env options.maxDepth)
      (nest env options'.maxDepth))
    (rules : options'.rules = options.rules) (flag : options'.sideEffects = options.sideEffects)
    (messages : options'.legacyMessages = options.legacyMessages)
    (vars : agree c.vars c'.vars) (random : c'.random = c.random) (dialog : c'.dialog = c.dialog)
    (tokens : ∀ token ∈ (Scan.scan options.rules text).tokens, admitted token)
    (kept : ∀ e, (c.evaluate env options text).result = .error e → ¬ excused e) :
    Agreed agree (c.evaluate env options text) (c'.evaluate env options' text) ∧
      (c'.evaluate env options' text).calculator.lastError =
        (c.evaluate env options text).calculator.lastError := by
  have sim {s s' : Session σ} (met : Beside agree admitted s s') :
      (parallel agree admitted known excused).Sim Lockstep.never
        (whole env options.maxDepth options.sideEffects)
        (whole env options'.maxDepth options'.sideEffects) s s'
        (fun _ => Beside agree admitted) := by
    have related : (parallel agree admitted known excused).related [] s s' := met
    exact Lockstep.sim_whole env (parallel_lawful compatible) (fun _ gone => gone) nesting flag
      related
  exact evaluate_of_sim sim compatible.finish rules messages vars random dialog tokens kept

end TemplateCalc.Calculator
