import TemplateCalc.Proofs.Lockstep.Parallel
import TemplateCalc.Proofs.Suppression

/-!
Evaluation is local to the variables that a text mentions.

The name of every variable that is read or set comes from a token: it is the text of a word or of a
quoted name, a keyword in small letters behind an inquiry, or one of these with an index. All other
variables have no influence and are left alone. No variable is ever removed.
-/

set_option autoImplicit false

namespace TemplateCalc

/-- The texts that a token can stand for as a name. Behind an inquiry a keyword is taken in small
letters. -/
def Token.names : Token → List String
  | .word w => if isKeyword (Text.lowercase w) then [w, Text.lowercase w] else [w]
  | .quoted w => [w]
  | _ => []

def Token.Mentions (token : Token) (cell : String) : Prop :=
  ∃ name ∈ token.names, cell = name ∨ ∃ i : Int64, cell = Session.elementName name i

namespace Session

theorem not_mentions_of_plain {token : Token} {hidden : String} (plain : '[' ∉ hidden.toList)
    (unnamed : hidden ∉ token.names) : ¬ token.Mentions hidden := by
  rintro ⟨name, isName, rfl | ⟨i, rfl⟩⟩
  · exact unnamed isName
  · exact plain (mem_elementName name i)

/-! ### Stores that differ in one variable -/

structure AgreeOff (hidden : String) (value value' : Option Value) (vars vars' : Store) : Prop where
  here : vars.get? hidden = value
  here' : vars'.get? hidden = value'
  others : ∀ name, name ≠ hidden → vars'.get? name = vars.get? name

variable {hidden : String} {value value' : Option Value} {vars vars' : Store}

theorem AgreeOff.set (agree : AgreeOff hidden value value' vars vars') {name : String}
    (other : name ≠ hidden) (stored : Value) :
    AgreeOff hidden value value' (vars.set name stored) (vars'.set name stored) := by
  constructor
  · rw [Store.get?_set_of_ne other.symm, agree.here]
  · rw [Store.get?_set_of_ne other.symm, agree.here']
  · intro name' different
    rw [Store.get?_set, Store.get?_set, agree.others name' different]

theorem not_mentioned {token : Token} (unmentioned : ¬ token.Mentions hidden) {name : String}
    (isName : name ∈ token.names) :
    name ≠ hidden ∧ ∀ i, elementName name i ≠ hidden := by
  constructor
  · rintro rfl
    exact unmentioned ⟨name, isName, .inl rfl⟩
  · rintro i rfl
    exact unmentioned ⟨name, isName, .inr ⟨i, rfl⟩⟩

theorem compatible_agreeOff (hidden : String) (value value' : Option Value) :
    Compatible (AgreeOff hidden value value') (fun token => ¬ token.Mentions hidden)
      (· ≠ hidden) (fun _ => False) where
  reading agree other := agree.others _ other
  setting stored agree other := agree.set other stored
  word {w} unmentioned := by
    constructor
    · apply not_mentioned unmentioned
      rw [Token.names]
      split <;> exact List.mem_cons_self
    · intro keyword
      apply not_mentioned unmentioned
      rw [Token.names, if_pos keyword]
      exact List.mem_cons_of_mem _ List.mem_cons_self
  quoted unmentioned := not_mentioned unmentioned List.mem_cons_self
  finish := by
    rintro ⟨name, impossible, _⟩
    cases impossible
  missing impossible := impossible

/-! ### No variable is removed -/

variable {σ : Type}

/-- A step that leaves all variables in place, though perhaps with other values. -/
theorem frame_contains :
    Frame (fun s t : Session σ => ∀ name, s.vars.contains name = true → t.vars.contains name = true)
      (fun _ => True) where
  refl _ _ there := there
  trans first second name there := second name (first name there)
  mask _ _ := trivial
  passing s name there := by
    obtain ⟨token, rest, moved⟩ := advance_state s
    rw [moved]
    exact there
  skipping branch s name there := by
    obtain ⟨token, rest, moved⟩ := skipOperand_state branch s
    rw [moved]
    exact there
  noting _ _ _ there := there
  drawing _ _ _ there := there
  setting _ _ name value _ there := Store.contains_set there name value
  asking _ _ _ _ there := there
  sinking kept := kept

end Session

namespace Calculator

variable {σ : Type}

theorem evaluate_contains (env : Surroundings σ) (options : EvalOptions) (c : Calculator σ)
    (text name : String) (there : c.vars.contains name = true) :
    (c.evaluate env options text).calculator.vars.contains name = true := by
  rw [(evaluate_eq env options c text).2]
  cases opened : c.session? (Scan.scan options.rules text) with
  | error fault =>
      rw [run_of_fault opened]
      exact there
  | ok s =>
      rw [run_of_session opened]
      have kept : Session.Keeps _ (Session.whole env options.maxDepth options.sideEffects) :=
        Session.frame_contains.keeps_whole env options.maxDepth trivial
      apply kept s name
      rw [(session?_untouched opened).1]
      exact there

/-- A variable that no token mentions has no influence on an evaluation and is left alone by it,
whether it has a value or not. And no evaluation removes a variable. -/
theorem evaluation_is_local (env : Surroundings σ) (options : EvalOptions) (c : Calculator σ)
    (text : String) :
    (∀ (hidden : String) (value : Value),
      (∀ token ∈ (Scan.scan options.rules text).tokens, ¬ token.Mentions hidden) →
        let bound := { c with vars := c.vars.set hidden value }.evaluate env options text
        let absent := { c with vars := c.vars.erase hidden }.evaluate env options text
        bound.result = absent.result ∧
          bound.calculator.random = absent.calculator.random ∧
          bound.calculator.dialog = absent.calculator.dialog ∧
          bound.calculator.lastError = absent.calculator.lastError ∧
          (∀ name, name ≠ hidden →
            bound.calculator.vars.get? name = absent.calculator.vars.get? name) ∧
          bound.calculator.vars.get? hidden = some value ∧
          absent.calculator.vars.get? hidden = none) ∧
    ∀ name, c.vars.contains name = true →
      (c.evaluate env options text).calculator.vars.contains name = true := by
  refine ⟨?_, evaluate_contains env options c text⟩
  intro hidden value unmentioned bound absent
  have compatible := Session.compatible_agreeOff hidden none (some value)
  -- the two stores agree off the hidden name from the start
  have agree : Session.AgreeOff hidden none (some value) (c.vars.erase hidden)
      (c.vars.set hidden value) := by
    refine ⟨Store.get?_erase_self, Store.get?_set_self, ?_⟩
    intro name different
    rw [Store.get?_set_of_ne different, Store.get?_erase_of_ne different]
  have nesting := (Session.parallel_lawful compatible).nesting env (fun _ gone => gone)
    options.maxDepth
  have beside := @evaluate_beside _ _ _ _ _ env options options
    { c with vars := c.vars.erase hidden } { c with vars := c.vars.set hidden value } text compatible
    nesting rfl rfl rfl agree rfl rfl unmentioned (fun _ _ impossible => impossible)
  obtain ⟨agreed, sameError⟩ := beside
  exact ⟨agreed.result, agreed.random, agreed.dialog, sameError, agreed.vars.others,
    agreed.vars.here', agreed.vars.here⟩

/-- A text that names an element and a keyword, and a variable that differs from its array in the
case of a letter only. -/
theorem unmentioned_name_in_large_letters :
    let env : Surroundings Unit := ⟨Host.none, none, 0⟩
    let c : Calculator Unit :=
      { vars := ⟨[("i", .int 0)]⟩, random := Random.ofSeed 0, dialog := () }
    let text := "b[i++] = defined TRUE ? 3 : 4"
    let bound := { c with vars := c.vars.set "B" (.int 7) }.evaluate env {} text
    let absent := { c with vars := c.vars.erase "B" }.evaluate env {} text
    (∀ token ∈ (Scan.scan ({} : EvalOptions).rules text).tokens, "B" ∉ token.names) ∧
      absent.result = .ok (.int 4) ∧ bound.result = .ok (.int 4) ∧
      bound.calculator.vars.get? "B" = some (.int 7) ∧
      bound.calculator.vars.get? "b[0]" = absent.calculator.vars.get? "b[0]" ∧
      bound.calculator.vars.contains "i" = true := by
  intro env c text bound absent
  have unnamed : ∀ token ∈ (Scan.scan ({} : EvalOptions).rules text).tokens,
      "B" ∉ token.names := by
    decide +kernel
  have unmentioned : ∀ token ∈ (Scan.scan ({} : EvalOptions).rules text).tokens,
      ¬ token.Mentions "B" :=
    fun token member => Session.not_mentions_of_plain (by decide) (unnamed token member)
  have computed : absent.result = .ok (.int 4) := eq_of_isInt (by decide +kernel)
  obtain ⟨same, _, _, _, others, kept, _⟩ :=
    (evaluation_is_local env {} c text).1 "B" (.int 7) unmentioned
  have stays := (evaluation_is_local env {} { c with vars := c.vars.set "B" (.int 7) } text).2 "i"
  exact ⟨unnamed, computed, same.trans computed, kept, others "b[0]" (by decide), stays (by decide)⟩

end Calculator

end TemplateCalc
