import TemplateCalc.Proofs.Lockstep.Parallel
import TemplateCalc.Proofs.Suppression

/-!
Texts without effects.

A text that neither assigns nor steps and calls no function that asks the user is evaluated in the
same way whether effects are allowed or not. The two runs may carry different flags, since every
connective sets them anew, but none of them ever looks at its flag.
-/

set_option autoImplicit false

namespace TemplateCalc

/-- Whether a token can have an effect: it assigns, it is a step, or it names a function that asks
the user. -/
def Token.hasEffect : Token → Bool
  | .assign _ | .step _ => true
  | .word w => (Function.ofName? (Text.lowercase w)).any Session.asks
  | _ => false

theorem Token.hasEffect_of_writes {t : Token} (writes : (t.isAssign || t.isStep) = true) :
    t.hasEffect = true := by
  cases t with
  | assign op => rfl
  | step delta => rfl
  | _ => cases writes

namespace Session

variable {σ : Type}

namespace Lockstep

/-- The same lockstep for runs that may have different flags. They call no function that asks. -/
def unflagged (k : Lockstep σ) : Lockstep σ :=
  { k with
    flags := fun _ _ => True
    offered := fun f => asks f = false }

variable {k : Lockstep σ} {α : Type} {lost : Session σ → Prop} {m m' : Eval σ α}
  {s s' : Session σ} {Post : α → Session σ → Session σ → Prop}

theorem Sim.toUnflagged (sim : k.Sim lost m m' s s' Post) : k.unflagged.Sim lost m m' s s' Post :=
  ⟨sim.ok, sim.error⟩

theorem Sim.ofUnflagged (sim : k.unflagged.Sim lost m m' s s' Post) : k.Sim lost m m' s s' Post :=
  ⟨sim.ok, sim.error⟩

/-- Where no token in view has an effect, the flags do not matter. -/
theorem Lawful.unflagged (lawful : k.Lawful)
    (silent : ∀ {opened s s'}, k.related opened s s' → s.token.hasEffect = false) :
    k.unflagged.Lawful where
  view met := lawful.view met
  lost_finish gone := lawful.lost_finish gone
  lost_excused gone := lawful.lost_excused gone
  excused_missing excused := lawful.excused_missing excused
  ending met := lawful.ending met
  plain met same plain := (lawful.plain met same plain).toUnflagged
  entering b met same viewed := (lawful.entering b met same viewed).toUnflagged
  leaving b met same viewed := (lawful.leaving b met same viewed).toUnflagged
  stray e met nameless := (lawful.stray e met nameless).toUnflagged
  skipFirst met := (lawful.skipFirst met).toUnflagged
  skipSecond met := (lawful.skipSecond met).toUnflagged
  noting event met := lawful.noting event met
  reading met known := lawful.reading met known
  sinking met := lawful.sinking met
  rising met := lawful.rising met
  rising_ended ended := lawful.rising_ended ended
  word {opened s s' w} met viewed := by
    obtain ⟨name, keyword, _⟩ := lawful.word met viewed
    refine ⟨name, keyword, ?_⟩
    intro f named
    have quiet := silent met
    rw [viewed, Token.hasEffect, named] at quiet
    exact quiet
  quoted met viewed := lawful.quoted met viewed
  mask _ _ := trivial
  writing {opened s s' effects effects'} met _ writes := by
    -- only in front of a token with an effect would the flags have to be the same
    have loud := Token.hasEffect_of_writes writes
    rw [silent met] at loud
    cases loud
  asking offered asking _ := by
    rw [offered] at asking
    cases asking
  setting value met known := lawful.setting value met known
  drawing met := lawful.drawing met
  replying met := lawful.replying met

end Lockstep

abbrev Silent (s s' : Session σ) : Prop :=
  Beside (fun vars vars' => vars' = vars) (·.hasEffect = false) s s'

abbrev silently : Lockstep σ :=
  parallel (fun vars vars' => vars' = vars) (·.hasEffect = false) (fun _ => True) (fun _ => False)

theorem compatible_silent :
    Compatible (fun vars vars' => vars' = vars) (·.hasEffect = false) (fun _ => True)
      (fun _ => False) :=
  compatible_eq rfl fun impossible => impossible

/-- The flags of two such runs may be any two. -/
theorem Silent.sim_whole {s s' : Session σ} (met : Silent s s') (env : Surroundings σ)
    (maxDepth : Nat) (effects effects' : Bool) :
    silently.Sim Lockstep.never (whole env maxDepth effects) (whole env maxDepth effects') s s'
      (fun _ => Silent) := by
  have lawful : (silently (σ := σ)).unflagged.Lawful := by
    apply (parallel_lawful compatible_silent).unflagged
    intro opened s s' met
    exact met.tokens s.token List.mem_cons_self
  have nesting := lawful.nesting env (fun _ gone => gone) maxDepth
  have related : silently.unflagged.related [] s s' := met
  apply Lockstep.Sim.ofUnflagged
  exact Lockstep.sim_whole env lawful (fun _ gone => gone) nesting trivial related

end Session

namespace Calculator

variable {σ : Type}

/-- A text without effects has the same outcome with effects allowed and without. Both evaluations
leave the variables and the dialog as they were. -/
theorem effect_free_text_ignores_flag (env : Surroundings σ) (options : EvalOptions)
    (c : Calculator σ) (text : String)
    (silent : ∀ token ∈ (Scan.scan options.rules text).tokens, token.hasEffect = false) :
    let allowed := c.evaluate env { options with sideEffects := true } text
    let suppressed := c.evaluate env { options with sideEffects := false } text
    allowed.result = suppressed.result ∧ allowed.calculator = suppressed.calculator ∧
      allowed.calculator.vars = c.vars ∧ allowed.calculator.dialog = c.dialog := by
  intro allowed suppressed
  have sim {s s' : Session σ} (met : Session.Silent s s') :
      Session.silently.Sim Session.Lockstep.never (Session.whole env options.maxDepth false)
        (Session.whole env options.maxDepth true) s s' (fun _ => Session.Silent) :=
    met.sim_whole env options.maxDepth false true
  have outcomes : Agreed (fun vars vars' => vars' = vars) suppressed allowed ∧
      allowed.calculator.lastError = suppressed.calculator.lastError :=
    evaluate_of_sim sim Session.compatible_silent.finish rfl rfl rfl rfl rfl silent
      (fun _ _ impossible => impossible)
  obtain ⟨agreed, sameError⟩ := outcomes
  have same : allowed.calculator = suppressed.calculator := agreed.calculator_eq sameError
  refine ⟨agreed.result, same, ?_⟩
  rw [same, (evaluate_eq env { options with sideEffects := false } c text).2]
  exact run_untouched env { options with sideEffects := false } c text rfl

/-- A text with a random number behind an operand that decides its row, and one that is its value, on
a calculator whose user would answer. -/
theorem random_number_behind_decided_row :
    let env : Surroundings Script := ⟨Host.none, some Script.dialog, 0⟩
    let c : Calculator Script :=
      { vars := ⟨[("a", .bool true)]⟩, random := Random.ofSeed 0, dialog := ⟨[.int 7], []⟩ }
    let text := "(a || rand() < 2) ? rand() % 100 : b"
    let allowed := c.evaluate env { sideEffects := true } text
    let suppressed := c.evaluate env { sideEffects := false } text
    (∀ token ∈ (Scan.scan ({} : EvalOptions).rules text).tokens, token.hasEffect = false) ∧
      allowed.result = .ok (.int 55) ∧ suppressed.result = .ok (.int 55) ∧
      allowed.calculator = suppressed.calculator ∧
      allowed.calculator.vars = c.vars ∧ allowed.calculator.dialog = c.dialog := by
  intro env c text allowed suppressed
  have silent : ∀ token ∈ (Scan.scan ({} : EvalOptions).rules text).tokens,
      token.hasEffect = false := by
    decide +kernel
  have computed : allowed.result = .ok (.int 55) := eq_of_isInt (by decide +kernel)
  obtain ⟨result, calculator, untouched⟩ := effect_free_text_ignores_flag env {} c text silent
  exact ⟨silent, computed, result.symm.trans computed, calculator, untouched⟩

end Calculator

end TemplateCalc
