import TemplateCalc.Proofs.Sequence
import TemplateCalc.Proofs.Tree.Names

/-!
The evaluation of a text is the meaning of its tree.

Main statement: whatever the tree and the variables, the text of the tree evaluates to the value or
the error of its meaning and leaves the same variables, if there are no symbols of the host.
-/

set_option autoImplicit false

namespace TemplateCalc

variable {σ : Type} {env : Surroundings σ}

namespace Session

/-! ### Constants -/

theorem evaluates_constant {token : Token} {value : Value} (starts : startsPrimary token = true)
    (reads : ∀ (nested : Nested σ) effects (s t : Session σ), s.token = token →
      advance s = (.ok token, t) → primary env nested false effects s = (.ok { value }, t)) :
    Evaluates env 1 [token] fun _ => pure value := by
  apply evaluates_of_prefixed (List.cons_ne_nil _ _)
  intro room effects s more enough met ends
  have viewed : s.token = token := met.token
  obtain ⟨t, passed, behind, sameVars⟩ := met.advance
  rw [prefixed_of_primary (by rw [viewed]; exact starts)]
  refine Gives.postfixed (.inl ⟨{ value }, t, ?_, reads _ _ _ _ viewed passed, behind⟩) ends
  rw [sameVars]
  rfl

theorem evaluates_int (n : Int64) : Evaluates env 1 [.int n] fun _ => pure (.int n) := by
  apply evaluates_constant rfl
  intro nested effects s t viewed passed
  rw [primary, run_bind_ok (run_peek s), viewed]
  simp only
  rw [run_bind_ok (run_pass_ok passed)]
  rfl

theorem evaluates_str (text : String) : Evaluates env 1 [.str text] fun _ => pure (.str text) := by
  apply evaluates_constant rfl
  intro nested effects s t viewed passed
  rw [primary, run_bind_ok (run_peek s), viewed]
  simp only
  rw [run_bind_ok (run_pass_ok passed)]
  rfl

theorem evaluates_truth (b : Bool) : Evaluates env 1 [truthToken b] fun _ => pure (.bool b) := by
  apply evaluates_constant rfl
  intro nested effects s t viewed passed
  rw [primary, run_bind_ok (run_peek s), viewed]
  simp only [truthToken]
  rw [run_bind_ok (run_pass_ok passed)]
  cases b <;> rfl

/-! ### Trees -/

/-- An expression of any level in a place of any level, enclosed where the place is tighter. -/
theorem Evaluates.enclose {level : Nat} {tokens : List Token} {meaning : Bool → Meaning Value}
    (evaluates : Evaluates env (max 1 level) tokens meaning) (most : level ≤ commaLevel)
    {place : Nat} (least : 1 ≤ place) (mostPlace : place ≤ commaLevel) :
    Evaluates env place (enclose (place < level) tokens) meaning := by
  have loosest : max 1 level ≤ commaLevel := Nat.max_le.mpr ⟨by decide, most⟩
  by_cases tighter : place < level
  · rw [TemplateCalc.enclose, if_pos (decide_eq_true tighter)]
    have inside := evaluates.of_le (Nat.le_max_left 1 level) loosest (Nat.le_refl _)
    exact inside.enclosed.of_le (Nat.le_refl 1) least mostPlace
  · rw [TemplateCalc.enclose, if_neg (by simp [tighter])]
    exact evaluates.of_le (Nat.le_max_left 1 level) (Nat.max_le.mpr ⟨least, Nat.not_lt.mp tighter⟩)
      mostPlace

theorem level_le (e : Expr) : e.level ≤ commaLevel := by
  cases e with
  | joined j => exact j.level_bounds.2
  | _ => exact Nat.le_of_ble_eq_true rfl

/-- Every level that is loose enough for a tree follows the meaning of the tree. -/
theorem evaluates_tokens (noSymbols : env.host = Host.none) (e : Expr) :
    Evaluates env (max 1 e.level) e.tokens e.meaning := by
  induction e with
  | int n positive => exact evaluates_int n
  | truth b => exact evaluates_truth b
  | str s plain => exact evaluates_str s
  | var x => exact evaluates_var noSymbols x
  | prefixed op e ih =>
      have inner := ih.enclose (level_le e) (Nat.le_refl 1) (by decide)
      exact inner.prefixed op
  | joined j a b left right =>
      obtain ⟨least, most⟩ := j.level_bounds
      have isLevel : max 1 j.level = j.level := Nat.max_eq_right (by omega)
      have first := left.enclose (level_le a) (by omega : 1 ≤ j.level) most
      have second := right.enclose (level_le b) (by omega : 1 ≤ j.level - 1) (by omega)
      have asLoose : decide (j.level - 1 < b.level) = decide (j.level ≤ b.level) :=
        decide_eq_decide.mpr (by omega)
      rw [asLoose] at second
      rw [Expr.level, isLevel]
      exact first.joined second
  | assigned x op e ih =>
      have inner := ih.enclose (level_le e) (by decide : 1 ≤ assignLevel) (by decide)
      exact evaluates_assigned noSymbols x op inner
  | stepped s x => exact evaluates_stepped noSymbols s x
  | thenStepped x s => exact evaluates_thenStepped noSymbols x s

/-- An expression that is all there is, is a row of expressions. -/
theorem Gives.alone {meant : Except EvalError Value × Store} {nested : Nested σ} {effects : Bool}
    {s : Session σ} (gives : Gives [] meant (assign nested effects s)) :
    Gives [] meant (comma nested effects s) := by
  rw [comma]
  rcases gives with ⟨a, t, isMeant, ran, atEnd⟩ | ⟨e, t, isMeant, failed, found⟩
  · refine .inl ⟨a, t, isMeant, ?_, atEnd⟩
    rw [run_bind_ok ran, run_bind_ok (run_get t)]
    exact commaTail_stop (by rw [atEnd.token]; exact Token.noConfusion) _ _
  · exact .inr ⟨e, t, isMeant, run_bind_error failed, found⟩

/-- A row of expressions that is all there is. -/
theorem Gives.whole {meant : Except EvalError Value × Store} {maxDepth : Nat} {effects : Bool}
    {s : Session σ} (row : Gives [] meant (comma (nest env maxDepth) effects s)) :
    (whole env maxDepth effects s).1 = meant.1 ∧
      (whole env maxDepth effects s).2.vars = meant.2 := by
  rw [Session.whole]
  rcases row.orMissing .expression with ⟨a, t, isMeant, ran, behind⟩ | ⟨e, t, isMeant, failed, _⟩
  · have viewed : t.token = .finish := behind.token
    rw [run_bind_ok ran, complete, run_bind_ok (run_peek t), viewed, isMeant]
    exact ⟨rfl, rfl⟩
  · rw [run_bind_error failed, isMeant]
    exact ⟨rfl, rfl⟩

/-- Tokens that evaluate to a meaning on some level do so as a whole text. -/
theorem Evaluates.whole {level : Nat} {tokens : List Token} {meaning : Bool → Meaning Value}
    (evaluates : Evaluates env level tokens meaning) (least : 1 ≤ level)
    (most : level ≤ commaLevel) {maxDepth : Nat} (room : tokens.length ≤ maxDepth) (effects : Bool)
    {s : Session σ} (met : At tokens s) :
    (whole env maxDepth effects s).1 = (meaning effects s.vars).1 ∧
      (whole env maxDepth effects s).2.vars = (meaning effects s.vars).2 := by
  have loosest := evaluates.of_le least most (Nat.le_refl _)
  rw [← List.append_nil tokens] at met
  exact Gives.whole (loosest.gives (by decide) room met (ends_nil _) fun isOwn => by cases isOwn)

/-- The tokens of a tree, with nothing behind them, evaluate to the meaning of the tree. -/
theorem whole_follows (noSymbols : env.host = Host.none) (e : Expr) {maxDepth : Nat}
    (room : e.tokens.length ≤ maxDepth) (effects : Bool) {s : Session σ} (met : At e.tokens s) :
    (whole env maxDepth effects s).1 = (e.meaning effects s.vars).1 ∧
      (whole env maxDepth effects s).2.vars = (e.meaning effects s.vars).2 := by
  have most : max 1 e.level ≤ commaLevel := Nat.max_le.mpr ⟨by decide, level_le e⟩
  exact (evaluates_tokens noSymbols e).whole (Nat.le_max_left 1 e.level) most room effects met

end Session

namespace Calculator

/-- Evaluating the text of a tree gives the value or the error of its meaning, and leaves the
variables of its meaning. There is room enough for any tree that has no more tokens than levels are
allowed. -/
theorem evaluate_eq_meaning (env : Surroundings σ) (options : EvalOptions) (c : Calculator σ)
    (e : Expr) (noSymbols : env.host = Host.none) (ten : options.radix = 10)
    (plain : options.digitSeparators = false) (room : e.tokens.length ≤ options.maxDepth) :
    (c.evaluate env options e.text).result = (e.meaning options.sideEffects c.vars).1 ∧
      (c.evaluate env options e.text).calculator.vars =
        (e.meaning options.sideEffects c.vars).2 := by
  have rules : options.rules = ⟨10, none⟩ := by
    rw [EvalOptions.rules, ten, plain]
    rfl
  have scanned : Scan.scan options.rules e.text = ⟨e.tokens, none⟩ :=
    e.scan_text (by rw [rules]) (by rw [rules])
  cases isTokens : e.tokens with
  | nil => exact absurd isTokens e.tokens_ne_nil
  | cons token rest =>
      have opened := c.session_of_tokens (scanned.trans (by rw [isTokens]))
      have met : Session.At e.tokens (c.opening token rest) := by
        rw [isTokens]
        exact ⟨rfl, rfl, rfl⟩
      obtain ⟨result, vars⟩ := Session.whole_follows noSymbols e room options.sideEffects met
      obtain ⟨ran, calculator⟩ := evaluate_eq env options c e.text
      rw [ran, calculator, run_of_session opened]
      exact ⟨result, vars⟩

/-- A decided connective without effects, an assignment inside of a row, and a compound assignment
behind a comma. -/
theorem assignment_behind_decided_row :
    let env : Surroundings Unit := ⟨Host.none, none, 0⟩
    let c : Calculator Unit :=
      { random := Random.ofSeed 0, dialog := (), vars := ⟨[("x", .int 3)]⟩ }
    let x : Variable := ⟨"x", by decide, by decide +kernel⟩
    let one : Expr := .int 1 (by decide)
    let e : Expr := .joined .comma
      (.joined (.connective .either) (.truth true)
        (.joined (.operator (.relation .equal)) (.assigned x none one) one))
      (.assigned x (some .mul) (.joined (.operator (.arith .add)) (.var x) one))
    e.text = "TRUE || ( x = 1 ) == 1 , x *= x + 1" ∧ e.tokens.length ≤ 64 ∧
      (c.evaluate env { maxDepth := 64 } e.text).calculator.vars.entries = [("x", .int 12)] := by
  intro env c x one e
  have room : e.tokens.length ≤ 64 := by decide
  obtain ⟨_, vars⟩ := evaluate_eq_meaning env { maxDepth := 64 } c e rfl rfl rfl room
  refine ⟨by decide, room, ?_⟩
  rw [vars]
  rfl

end Calculator

end TemplateCalc
