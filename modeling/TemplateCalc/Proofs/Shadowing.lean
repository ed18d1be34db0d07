import TemplateCalc.Proofs.Contract.Operand
import TemplateCalc.Proofs.Variables

/-!
Symbols of the host and keywords cannot be hidden behind a variable.

A variable is set through an operand, and an operand gets a name in two ways. Either a variable with
that name was found, or neither the variables nor the host knew the name. So a name that the host
answers to never becomes a variable. And a keyword is a name only where it is quoted.
-/

set_option autoImplicit false

namespace TemplateCalc

namespace Session

variable {σ : Type}

/-- One variable, here called the cell, keeps its value or stays absent. -/
def guarding (cell : String) (value : Option Value) (admitted : Token → Prop)
    (known : String → Prop) : Contract σ where
  holds s := s.vars.get? cell = value ∧ ∀ token ∈ s.ahead, admitted token
  starts s := s.vars.get? cell = value ∧ ∀ token ∈ s.ahead, admitted token
  enters _ s := s.vars.get? cell = value ∧ ∀ token ∈ s.ahead, admitted token
  ended s := s.vars.get? cell = value
  tolerated _ := True
  known := known
  writable name := name ≠ cell
  sound _ := True

structure Unreached (env : Surroundings σ) (cell : String) (value : Option Value)
    (admitted : Token → Prop) (known : String → Prop) : Prop where
  finish : admitted .finish
  word : ∀ {w}, admitted (.word w) → isKeyword (Text.lowercase w) = false → known w
  quoted : ∀ {w}, admitted (.quoted w) → known w
  found : ∀ {vars : Store} {name v}, known name → vars.get? cell = value →
    vars.get? name = some v → name ≠ cell
  unresolved : ∀ {name}, known name → env.host.resolve name none 0 = none →
    name ≠ cell ∧ ∀ i, elementName name i ≠ cell

variable {env : Surroundings σ} {cell : String} {value : Option Value} {admitted : Token → Prop}
  {known : String → Prop}

/-- Passing over tokens leaves no others ahead. -/
theorem admitted_ahead {s t : Session σ} (finish : admitted .finish)
    (seen : ∀ token ∈ t.ahead, token ∈ s.ahead ∨ token = .finish)
    (before : ∀ token ∈ s.ahead, admitted token) : ∀ token ∈ t.ahead, admitted token := by
  intro token member
  rcases seen token member with isBefore | rfl
  · exact before token isBefore
  · exact finish

theorem guarding_advance (unreached : Unreached env cell value admitted known) {s t : Session σ}
    {token : Token} (held : (guarding cell value admitted known).holds s)
    (ran : advance s = (.ok token, t)) : (guarding cell value admitted known).holds t := by
  have seen := frame_ahead.passing s
  rw [ran] at seen
  obtain ⟨_, _, rfl⟩ := state_of_advance ran
  exact ⟨held.1, admitted_ahead unreached.finish seen held.2⟩

theorem guarding_lawful (unreached : Unreached env cell value admitted known) :
    (guarding cell value admitted known : Contract σ).Lawful env where
  ending held := held.1
  refusing held := held.1
  operand _ held := held
  branch _ _ held _ := held
  passing held ran := guarding_advance unreached held ran
  beginning held _ ran := guarding_advance unreached held ran
  skipping {s t} branch held ran := by
    have seen := frame_ahead.skipping branch s
    rw [ran] at seen
    obtain ⟨_, _, rfl⟩ := state_of_skip ran
    exact ⟨held.1, admitted_ahead unreached.finish seen held.2⟩
  noting _ held := held
  drawing _ held := held
  replying _ held := held
  setting held other _ := ⟨(Store.get?_set_of_ne other.symm).trans held.1, held.2⟩
  failing _ := trivial
  bytes _ := trivial
  concrete _ := trivial
  reading _ _ := trivial
  symbol _ _ := trivial
  word {s w} held viewed noKeyword := by
    have isAdmitted := held.2 s.token List.mem_cons_self
    rw [viewed] at isAdmitted
    exact unreached.word isAdmitted noKeyword
  quoted {s w} held viewed := by
    have isAdmitted := held.2 s.token List.mem_cons_self
    rw [viewed] at isAdmitted
    exact unreached.quoted isAdmitted
  found held isKnown found := unreached.found isKnown held.1 found
  unresolved isKnown unknown := unreached.unresolved isKnown unknown

theorem guarding_sinks :
    Contract.Sinks (guarding cell value admitted known : Contract σ)
      (guarding cell value admitted known) where
  entering {p s} entered := by cases p <;> exact entered
  leaving _ held := held
  failing _ ended := ended
  tolerated _ := trivial
  writable other := other
  sound _ := trivial

/-! ### Names that cannot be reached -/

/-- The host answers to the name of the cell, and there is no such variable. -/
theorem unreached_symbol (plain : '[' ∉ cell.toList)
    (resolved : (env.host.resolve cell none 0).isSome = true) :
    Unreached env cell none (fun _ => True) (fun _ => True) where
  finish := trivial
  word _ _ := trivial
  quoted _ := trivial
  found {vars name v} _ absent found := by
    rintro rfl
    rw [absent] at found
    cases found
  unresolved {name} _ unknown := by
    constructor
    · rintro rfl
      rw [unknown] at resolved
      cases resolved
    · exact elementName_ne plain name

/-- The name of the cell is a keyword, and nowhere is it quoted. -/
theorem unreached_keyword (plain : '[' ∉ cell.toList)
    (keyword : isKeyword (Text.lowercase cell) = true) :
    Unreached env cell value (· ≠ .quoted cell) (· ≠ cell) where
  finish := Token.noConfusion
  word _ noKeyword := by
    rintro rfl
    rw [keyword] at noKeyword
    cases noKeyword
  quoted other := by
    rintro rfl
    exact other rfl
  found other _ _ := other
  unresolved {name} other _ := ⟨other, elementName_ne plain name⟩

end Session

namespace Calculator

open Session

variable {σ : Type}

theorem evaluate_guarded {env : Surroundings σ} {options : EvalOptions} {c : Calculator σ}
    {text cell : String} {value : Option Value} {admitted : Token → Prop} {known : String → Prop}
    (unreached : Unreached env cell value admitted known) (before : c.vars.get? cell = value)
    (tokens : ∀ token ∈ (Scan.scan options.rules text).tokens, admitted token) :
    (c.evaluate env options text).calculator.vars.get? cell = value := by
  have lawful := guarding_lawful unreached
  have nesting := Contract.nesting_alone lawful guarding_sinks trivial (fun entered => entered.1)
    options.maxDepth
  have start {s : Session σ} (opens : Opens c (Scan.scan options.rules text) s) :
      (guarding cell value admitted known).holds s := by
    constructor
    · rw [opens.vars]
      exact before
    · intro token member
      rcases opens.ahead token member with isRead | rfl
      · exact tokens token isRead
      · exact unreached.finish
  obtain ⟨_, _, kept⟩ := evaluate_upholds lawful nesting start (·.get? cell = value) before
    fun ended => ended
  exact kept

/-- A name without a bracket that the host answers to does not become a variable. And one that is a
keyword in small letters keeps its variable, or goes on without one, as long as it is nowhere
quoted. -/
theorem symbols_and_keywords_are_not_shadowed (env : Surroundings σ) (options : EvalOptions)
    (c : Calculator σ) (text name : String) (plain : '[' ∉ name.toList) :
    ((env.host.resolve name none 0).isSome = true → c.vars.contains name = false →
      (c.evaluate env options text).calculator.vars.contains name = false) ∧
    (isKeyword (Text.lowercase name) = true →
      .quoted name ∉ (Scan.scan options.rules text).tokens →
      (c.evaluate env options text).calculator.vars.get? name = c.vars.get? name) := by
  -- two ways in which no token leads to the cell
  constructor
  · intro resolved absent
    rw [Store.contains, Option.isSome_eq_false_iff, Option.isNone_iff_eq_none] at absent ⊢
    exact evaluate_guarded (unreached_symbol plain resolved) absent fun _ _ => trivial
  · intro keyword unquoted
    apply evaluate_guarded (unreached_keyword plain keyword) rfl
    rintro token member rfl
    exact unquoted member

def isQuoted (name : String) : Token → Bool
  | .quoted w => w == name
  | _ => false

theorem quoted_not_mem {name : String} {tokens : List Token}
    (test : tokens.all (fun token => !isQuoted name token) = true) : .quoted name ∉ tokens := by
  intro member
  have other := List.all_eq_true.mp test _ member
  simp [isQuoted] at other

/-- A symbol of the host that is assigned to, and a constant that is stepped although a variable has
its name in other letters. -/
theorem assigned_symbol_and_stepped_constant :
    let host : Host :=
      { resolve := fun name _ _ => if name = "size" then some ⟨.int 5, 8, 0, ""⟩ else none
        readBytes := Host.none.readBytes }
    let env : Surroundings Unit := ⟨host, none, 0⟩
    let c : Calculator Unit :=
      { vars := ⟨[("Pi", .int 3)]⟩, random := Random.ofSeed 0, dialog := () }
    let text := "@pi = 4, Pi++, @size = 6"
    (c.evaluate env {} "@size = 6").calculator.vars.contains "size" = false ∧
      .quoted "Pi" ∉ (Scan.scan ({} : EvalOptions).rules text).tokens ∧
      (c.evaluate env {} text).calculator.vars.get? "Pi" = some (.int 3) := by
  intro host env c text
  have unquoted : .quoted "Pi" ∉ (Scan.scan ({} : EvalOptions).rules text).tokens :=
    quoted_not_mem (by decide +kernel)
  have symbol := (symbols_and_keywords_are_not_shadowed env {} c "@size = 6" "size" (by decide)).1
    rfl (by decide)
  have keyword := (symbols_and_keywords_are_not_shadowed env {} c text "Pi" (by decide)).2
    (by decide +kernel) unquoted
  exact ⟨symbol, unquoted, keyword⟩

end Calculator

end TemplateCalc
