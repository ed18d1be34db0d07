import TemplateCalc.Proofs.Contract.Operand
import TemplateCalc.Proofs.Tree.Names
import TemplateCalc.Proofs.Variables

/-!
Placeholders and marks of containers stay inside an evaluation.

The host marks a container by a value, and a name without a value is read as `none` where something is
about to happen to it. Neither gets out: no evaluation has such a result and none stores one, unless
it was there before or the host gave it as the value of a symbol.
-/

set_option autoImplicit false

namespace TemplateCalc

namespace Session

variable {σ : Type} {env : Surroundings σ} {sound : Value → Prop}

/-! ### Sound values -/

def AllSound (sound : Value → Prop) (vars : Store) : Prop :=
  ∀ name value, vars.get? name = some value → sound value

theorem AllSound.set {vars : Store} (all : AllSound sound vars) (name : String) {value : Value}
    (isSound : sound value) : AllSound sound (vars.set name value) := by
  intro other stored found
  rw [Store.get?_set] at found
  split at found
  · cases found
    exact isSound
  · exact all other stored found

def keepingSound (sound : Value → Prop) : Contract σ where
  holds s := AllSound sound s.vars
  starts s := AllSound sound s.vars
  enters _ s := AllSound sound s.vars
  ended s := AllSound sound s.vars
  tolerated _ := True
  known _ := True
  writable _ := True
  sound := sound

/-- Which values may count as sound: those that operations give, and those of the host's symbols that
are no containers. -/
structure Admits (env : Surroundings σ) (sound : Value → Prop) : Prop where
  concrete : ∀ {value : Value}, value.isConcrete = true → sound value
  symbol : ∀ {name parent index} {found : Symbol},
    env.host.resolve name parent index = some found → found.value.isContainer = false →
    sound found.value

theorem keepingSound_lawful (admits : Admits env sound) :
    (keepingSound sound : Contract σ).Lawful env where
  ending held := held
  refusing held := held
  operand _ held := held
  branch _ _ held _ := held
  passing held ran := by
    obtain ⟨_, _, rfl⟩ := state_of_advance ran
    exact held
  beginning held _ ran := by
    obtain ⟨_, _, rfl⟩ := state_of_advance ran
    exact held
  skipping _ held ran := by
    obtain ⟨_, _, rfl⟩ := state_of_skip ran
    exact held
  noting _ held := held
  drawing _ held := held
  replying _ held := held
  setting {s name value} held _ isSound := held.set name isSound
  failing _ := trivial
  bytes _ := trivial
  concrete := admits.concrete
  reading held found := held _ _ found
  symbol := admits.symbol
  word _ _ _ := trivial
  quoted _ _ := trivial
  found _ _ _ := trivial
  unresolved _ _ := ⟨trivial, fun _ => trivial⟩

theorem keepingSound_sinks :
    Contract.Sinks (keepingSound sound : Contract σ) (keepingSound sound) where
  entering {p s} entered := by cases p <;> exact entered
  leaving _ held := held
  failing _ ended := ended
  tolerated _ := trivial
  writable _ := trivial
  sound isSound := isSound

end Session

namespace Calculator

open Session

variable {σ : Type}

/-- One evaluation keeps all variables sound and has a sound result. -/
theorem evaluate_sound {env : Surroundings σ} {sound : Value → Prop} (admits : Admits env sound)
    (options : EvalOptions) {c : Calculator σ} (text : String) (before : AllSound sound c.vars) :
    (∀ value, (c.evaluate env options text).result = .ok value → sound value) ∧
      AllSound sound (c.evaluate env options text).calculator.vars := by
  have lawful := keepingSound_lawful admits
  have nesting := Contract.nesting_alone lawful keepingSound_sinks trivial (fun entered => entered)
    options.maxDepth
  have start {s : Session σ} (opens : Opens c (Scan.scan options.rules text) s) :
      (keepingSound sound).holds s := by
    change AllSound sound s.vars
    rw [opens.vars]
    exact before
  obtain ⟨result, _, vars⟩ := evaluate_upholds lawful nesting start (AllSound sound) before
    fun ended => ended
  exact ⟨fun _ => result, vars⟩

/-! ### Rows of evaluations -/

structure Call (σ : Type) where
  env : Surroundings σ
  options : EvalOptions
  text : String

def evaluateAll (c : Calculator σ) : List (Call σ) → List (Outcome σ)
  | [] => []
  | call :: calls =>
    let outcome := c.evaluate call.env call.options call.text
    outcome :: outcome.calculator.evaluateAll calls

structure SoundOutcome (sound : Value → Prop) (outcome : Outcome σ) : Prop where
  result : ∀ value, outcome.result = .ok value → sound value
  vars : AllSound sound outcome.calculator.vars

theorem evaluateAll_sound {sound : Value → Prop} {calls : List (Call σ)}
    (admits : ∀ call ∈ calls, Admits call.env sound) {c : Calculator σ}
    (before : AllSound sound c.vars) :
    ∀ outcome ∈ c.evaluateAll calls, SoundOutcome sound outcome := by
  induction calls generalizing c with
  | nil =>
      intro outcome impossible
      cases impossible
  | cons call calls ih =>
      obtain ⟨result, vars⟩ :=
        evaluate_sound (admits call List.mem_cons_self) call.options call.text before
      intro outcome member
      rcases List.mem_cons.mp member with rfl | later
      · exact ⟨result, vars⟩
      · exact ih (fun other isLater => admits other (List.mem_cons_of_mem _ isLater)) vars outcome
          later

theorem isContainer_of_isConcrete {value : Value} (concrete : value.isConcrete = true) :
    value.isContainer = false := by
  cases value with
  | blob | struct | array => cases concrete
  | _ => rfl

theorem ne_none_of_isConcrete {value : Value} (concrete : value.isConcrete = true) :
    value ≠ .none := by
  rintro rfl
  cases concrete

/-- In a row of evaluations no result and no variable is a container if none was one before. And none
is `none` if none was before and the hosts have no such symbols, although a name without a value is
read as `none` in front of an assignment and of a step. -/
theorem placeholders_never_escape (c : Calculator σ) (calls : List (Call σ))
    (noContainers : AllSound (fun value => value.isContainer = false) c.vars) :
    (∀ outcome ∈ c.evaluateAll calls,
      SoundOutcome (fun value => value.isContainer = false) outcome) ∧
    (AllSound (· ≠ .none) c.vars →
      (∀ call ∈ calls, ∀ name parent index symbol,
        call.env.host.resolve name parent index = some symbol → symbol.value ≠ .none) →
      ∀ outcome ∈ c.evaluateAll calls, SoundOutcome (· ≠ .none) outcome) ∧
    ∀ (env : Surroundings σ) (nested : Nested σ) (stepWaits effects : Bool) (name : String)
      (s : Session σ), s.vars.get? name = none → env.host.resolve name none 0 = none →
      (s.token.isAssign || s.token.isStep) = true →
      ∃ t, named env nested stepWaits effects name s =
        (.ok { value := .none, target := some name }, t) := by
  refine ⟨?_, ?_, ?_⟩
  · apply evaluateAll_sound _ noContainers
    intro call _
    exact ⟨isContainer_of_isConcrete, fun _ scalar => scalar⟩
  · intro nothingMissing resolved
    apply evaluateAll_sound _ nothingMissing
    intro call member
    exact ⟨ne_none_of_isConcrete, fun answer _ => resolved call member _ _ _ _ answer⟩
  · intro env nested stepWaits effects name s unbound unresolved waiting
    have noIndex : s.token ≠ .openBracket := by
      intro viewed
      rw [viewed] at waiting
      cases waiting
    obtain ⟨journal, ran⟩ :=
      @named_unbound _ env nested stepWaits effects s name unresolved unbound noIndex
    have through : letsThrough stepWaits s.token = true := by
      rw [letsThrough, Bool.or_assoc, waiting, Bool.or_true]
    rw [if_pos through] at ran
    exact ⟨_, ran⟩

/-- A struct with one member: the struct alone, the member stored in a new variable, and a step of a
name without a value. -/
theorem member_of_struct_and_unbound_step :
    let host : Host :=
      { resolve := fun name parent _ =>
          match parent with
          | none => if name = "head" then some ⟨.struct, 8, 0, ""⟩ else none
          | some _ => if name = "size" then some ⟨.int 5, 8, 0, ""⟩ else none
        readBytes := Host.none.readBytes }
    let env : Surroundings Unit := ⟨host, none, 0⟩
    let c : Calculator Unit := { random := Random.ofSeed 0, dialog := () }
    let calls : List (Call Unit) :=
      [⟨env, {}, "head"⟩, ⟨env, {}, "n = head.size"⟩, ⟨env, {}, "m++"⟩]
    ((c.evaluateAll calls).map fun outcome => isInt 5 outcome.result) = [false, true, false] ∧
      (∀ outcome ∈ c.evaluateAll calls,
        SoundOutcome (fun value => value.isContainer = false) outcome) ∧
      (∀ outcome ∈ c.evaluateAll calls, SoundOutcome (· ≠ .none) outcome) ∧
      ∀ s : Session Unit, s.vars.get? "m" = none → s.token = .step .increment →
        ∃ t, named env (nest env 1) false true "m" s =
          (.ok { value := .none, target := some "m" }, t) := by
  intro host env c calls
  have empty (sound : Value → Prop) : AllSound sound c.vars := by
    intro name value impossible
    cases impossible
  have resolved : ∀ call ∈ calls, ∀ name parent index symbol,
      call.env.host.resolve name parent index = some symbol → symbol.value ≠ .none := by
    intro call member name parent index symbol answer
    have same : call.env = env := by
      simp only [calls, List.mem_cons, List.not_mem_nil, or_false] at member
      rcases member with rfl | rfl | rfl <;> rfl
    rw [same] at answer
    cases parent with
    | none =>
        simp only [env, host] at answer
        split at answer <;> cases answer
        exact Value.noConfusion
    | some parent =>
        simp only [env, host] at answer
        split at answer <;> cases answer
        exact Value.noConfusion
  obtain ⟨noContainer, noPlaceholder, placeholder⟩ := placeholders_never_escape c calls (empty _)
  refine ⟨by decide +kernel, noContainer, noPlaceholder (empty _) resolved, ?_⟩
  intro s unbound viewed
  exact placeholder env _ _ _ "m" s unbound rfl (by rw [viewed]; rfl)

end Calculator

end TemplateCalc
