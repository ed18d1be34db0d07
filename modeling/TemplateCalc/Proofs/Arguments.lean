import TemplateCalc.Proofs.FallBacks
import TemplateCalc.Proofs.Progress

/-!
Arguments of calls.

The arguments of a call are read and checked one after the other, and the row ends where the greatest
number is reached or no comma follows. A function is therefore only applied to arguments that it can
handle. An evaluation that would raise an alarm in place of any other application goes the same way.
-/

set_option autoImplicit false

namespace TemplateCalc

namespace Function

variable {f : Function}

theorem least_le_greatest (f : Function) : f.arity.2.all (f.arity.1 ≤ ·) = true := by
  cases f <;> rfl

theorem handles_nil (takesNone : f.arity.2 = some 0) : f.handles [] = true := by
  have least := f.least_le_greatest
  rw [takesNone] at least
  rw [handles, accepts, takesNone, checks_nil]
  simpa using least

theorem room_of_ne (takesSome : f.arity.2 ≠ some 0) :
    f.arity.2.all (([] : List Value).length < ·) = true := by
  cases greatest : f.arity.2 with
  | none => rfl
  | some n =>
      rw [greatest] at takesSome
      apply decide_eq_true
      apply Nat.pos_of_ne_zero
      rintro rfl
      exact takesSome rfl

theorem handles_append {args : List Value} {v : Value} (checked : f.checks args = true)
    (typed : f.checkArgument args.length v = .ok ()) (least : f.arity.1 ≤ (args ++ [v]).length)
    (room : f.arity.2.all (args.length < ·) = true) : f.handles (args ++ [v]) = true := by
  have greatest : f.arity.2.all ((args ++ [v]).length ≤ ·) = true := by
    rw [List.length_append]
    exact room
  rw [handles, accepts, checks_append, checked, typed, greatest, decide_eq_true least]
  rfl

end Function

namespace Session

variable {σ : Type} {nested : Nested σ} {effects : Bool} {f : Function} {s t : Session σ}

/-! ### The row of arguments -/

/-- What a round of a row of arguments that is read to its end does: it adds an argument of the right
type, and then ends the row or passes over a comma in front of the next round. -/
theorem arguments_cases (taking : Taking nested) {round : Token} {rounds : List Token}
    {args args' : List Value}
    (ran : arguments nested effects f (round :: rounds) args s = (.ok args', t)) :
    ∃ v, f.checkArgument args.length v = .ok () ∧
      ((args' = args ++ [v] ∧ f.arity.1 ≤ args'.length) ∨
        (f.arity.2.all ((args ++ [v]).length < ·) = true ∧
          ∃ u, u.left + 2 ≤ s.left ∧
            arguments nested effects f rounds (args ++ [v]) u = (.ok args', t))) := by
  rw [arguments] at ran
  obtain ⟨operand, u, read, ran⟩ := ok_of_bind ran
  have taken := (strict_assign taking).orMissing _ s operand u read
  obtain ⟨_, _, checked, ran⟩ := ok_of_bind ran
  obtain ⟨typed, rfl⟩ := Prod.mk.inj checked
  refine ⟨operand.value, typed, ?_⟩
  rw [run_bind_ok (run_peek u)] at ran
  -- the row ends in the same way at any token but a comma, and at a comma behind the greatest number
  have ends (ended : (if (args ++ [operand.value]).length < f.arity.1 then throw f.commaError
      else return args ++ [operand.value] : Eval σ (List Value)) u = (.ok args', t)) :
      args' = args ++ [operand.value] ∧ f.arity.1 ≤ args'.length := by
    split at ended
    · cases ended
    · cases ended
      exact ⟨rfl, by omega⟩
  cases viewed : u.token with
  | comma =>
      cases room : f.arity.2.all ((args ++ [operand.value]).length < ·) with
      | false =>
          rw [viewed, room] at ran
          exact .inl (ends ran)
      | true =>
          rw [viewed, room] at ran
          obtain ⟨_, w, passed, ran⟩ := ok_of_bind ran
          have shorter := left_pass_lt (by rw [viewed]; exact Token.noConfusion) passed
          exact .inr ⟨rfl, w, by omega, ran⟩
  | _ =>
      rw [viewed] at ran
      exact .inl (ends ran)

/-- There is a round for each argument, since each takes a token and so does the comma behind it. -/
theorem handles_of_arguments (taking : Taking nested) {round : Token} {rounds : List Token}
    {args args' : List Value} (enough : s.left ≤ (round :: rounds).length)
    (checked : f.checks args = true) (room : f.arity.2.all (args.length < ·) = true)
    (ran : arguments nested effects f (round :: rounds) args s = (.ok args', t)) :
    f.handles args' = true := by
  induction measure : s.left using Nat.strongRecOn generalizing s args round rounds with
  | ind n ih =>
      obtain ⟨v, typed, ended | ⟨room', u, taken, ran⟩⟩ := arguments_cases taking ran
      · obtain ⟨rfl, least⟩ := ended
        exact Function.handles_append checked typed least room
      · cases rounds with
        | nil =>
            simp only [List.length_singleton] at enough
            omega
        | cons next rounds =>
            simp only [List.length_cons] at enough
            refine ih u.left (by omega) ?_ ?_ room' ran rfl
            · simp only [List.length_cons]
              omega
            · rw [Function.checks_append, checked, typed]
              rfl

/-! ### Calls under guard -/

section Guard

variable (env : Surroundings σ) (alarm : Function → List Value → Eval σ Value)

/-- Applies a function to arguments that it can handle, and raises an alarm at any others. -/
def guardedApply (effects : Bool) (f : Function) (args : List Value) : Eval σ Value :=
  if f.handles args then applyFunction env effects f args else alarm f args

def guardedClose (effects : Bool) (f : Function) (args : List Value) : Eval σ Operand := do
  match ← peek with
  | .closeParen =>
    discard advance
    return { value := ← guardedApply env alarm effects f args }
  | _ => throw (f.unclosedError args.length)

def guardedCall (nested : Nested σ) (effects : Bool) (f : Function) : Eval σ Operand := do
  match ← peek with
  | .openParen =>
    discard advance
    if f.arity.2 = some 0 then
      guardedClose env alarm effects f []
    else
      let args ← arguments nested effects f (← get).ahead []
      guardedClose env alarm effects f args
  | _ => throw (.grammar (.openingExpected f.name))

def guardedWord (nested : Nested σ) (stepWaits effects : Bool) (word : String) :
    Eval σ Operand := do
  let small := Text.lowercase word
  if small = "true" then return { value := .bool true }
  else if small = "false" then return { value := .bool false }
  else if small = "pi" then return { value := .real circleConstant }
  else if reservedWords.contains small then throw (.grammar (.reserved small))
  else
    match Inquiry.ofName? small, Function.ofName? small with
    | some inquiry, _ => inquire env nested effects inquiry
    | none, some f => guardedCall env alarm nested effects f
    | none, none => named env nested stepWaits effects word

/-- An operand. If it does not start with a word, it calls a function only in what is nested in it. -/
def guardedOperand (nested : Nested σ) (stepWaits effects : Bool) : Eval σ Operand := do
  match ← peek with
  | .word word =>
    discard advance
    let operand ← guardedWord env alarm nested stepWaits effects word
    postfixTail nested effects (← get).ahead operand
  | _ => prefixed env nested stepWaits effects

def guardedProduction (nested : Nested σ) : Nested σ
  | .prefixed stepWaits, effects => guardedOperand env alarm nested stepWaits effects
  | p, effects => production env nested p effects

def guarded : (room : Nat) → Nested σ
  | 0, _, _ => throw .tooComplex
  | room + 1, p, effects => deeper (guardedProduction env alarm (guarded room) p effects)

def guardedWhole (maxDepth : Nat) (effects : Bool) : Eval σ Value := do
  let operand ← orMissing .expression (comma (guarded env alarm maxDepth) effects)
  complete operand

variable {env alarm}

theorem guardedClose_eq {args : List Value} (handled : f.handles args = true) :
    guardedClose env alarm effects f args = closeCall env effects f args := by
  unfold guardedClose
  simp only [guardedApply, if_pos handled]
  rfl

theorem guardedCall_eq (taking : Taking nested) (f : Function) :
    guardedCall env alarm nested effects f = call env nested effects f := by
  funext s
  apply run_bind_agree
  intro token s _
  cases token with
  | openParen =>
      apply run_bind_agree
      intro _ s _
      by_cases takesNone : f.arity.2 = some 0
      · simp only [if_pos takesNone, guardedClose_eq (Function.handles_nil takesNone)]
      · simp only [if_neg takesNone]
        apply run_bind_agree
        intro _ s' same
        cases same
        apply run_bind_agree
        intro args t ran
        have handled := handles_of_arguments taking (left_le_ahead s) f.checks_nil
          (Function.room_of_ne takesNone) ran
        rw [guardedClose_eq handled]
  | _ => rfl

theorem guardedWord_eq (taking : Taking nested) (stepWaits : Bool) (word : String) :
    guardedWord env alarm nested stepWaits effects word =
      wordOperand env nested stepWaits effects word := by
  simp only [guardedWord, guardedCall_eq taking]
  rfl

theorem guardedOperand_eq (taking : Taking nested) (stepWaits : Bool) :
    guardedOperand env alarm nested stepWaits effects = prefixed env nested stepWaits effects := by
  funext s
  rw [guardedOperand, run_bind_ok (run_peek s)]
  cases viewed : s.token with
  | word w =>
      have begins : primary env nested stepWaits effects s = (do
          discard advance
          wordOperand env nested stepWaits effects w : Eval σ Operand) s := by
        rw [primary, run_bind_ok (run_peek s), viewed]
      rw [prefixed, run_bind_ok (run_peek s), viewed]
      simp only [guardedWord_eq taking]
      rw [postfixed, run_bind_same begins, bind_assoc]
  | _ => rfl

theorem guardedProduction_eq (taking : Taking nested) :
    guardedProduction env alarm nested = production env nested := by
  funext p effects
  cases p with
  | prefixed stepWaits => exact guardedOperand_eq taking stepWaits
  | _ => rfl

theorem guarded_eq (room : Nat) : guarded env alarm room = nest env room := by
  induction room with
  | zero =>
      funext p effects
      rfl
  | succ room ih =>
      funext p effects
      rw [guarded, ih, guardedProduction_eq (taking_nest env room)]
      rfl

theorem guardedWhole_eq (maxDepth : Nat) :
    guardedWhole env alarm maxDepth effects = whole env maxDepth effects := by
  rw [guardedWhole, guarded_eq]
  rfl

end Guard

/-- No alarm that guards the calls is ever raised: evaluations apply functions only to arguments in
the right number and of the right types. Each function finds every argument that it looks for among
such arguments, and nothing stands in for one. -/
theorem functions_see_handled_arguments (env : Surroundings σ) :
    (∀ (alarm : Function → List Value → Eval σ Value) (room : Nat) (effects : Bool) (s : Session σ),
      (∀ p, guarded env alarm room p effects s = nest env room p effects s) ∧
        guardedWhole env alarm room effects s = whole env room effects s) ∧
    ∀ (effects : Bool) (f : Function) (args : List Value),
      Coercion.lenient.apply args env effects f = applyFunction env effects f args ∧
        (f.handles args = true →
          Coercion.strict.apply args env effects f = some (applyFunction env effects f args)) := by
  constructor
  · intro alarm room effects s
    constructor
    · intro p
      rw [guarded_eq]
    · rw [guardedWhole_eq]
  · intro effects f args
    exact ⟨Coercion.lenient_apply env effects args f,
      fun handled => Coercion.strict_apply handled env effects⟩

/-- A third argument can be left out. With fewer arguments, or with one of another type, the alarm is
raised, and the strict way gives up. -/
theorem absent_length_of_text :
    let env : Surroundings Unit := ⟨Host.none, none, 0⟩
    let alarm : Function → List Value → Eval Unit Value := fun f _ => throw (.host (.unavailable f))
    let guardedMid := guardedApply env alarm true .mid
    let strictMid (args : List Value) := Coercion.strict.apply args env true .mid
    (Function.mid.handles [.str "TEST", .int 1] = true ∧
        strictMid [.str "TEST", .int 1] = some (applyFunction env true .mid [.str "TEST", .int 1])) ∧
      (guardedMid [.str "TEST"] = alarm .mid [.str "TEST"] ∧ strictMid [.str "TEST"] = none) ∧
      strictMid [.str "TEST", .int 1, .str "2"] = none := by
  intro env alarm guardedMid strictMid
  obtain ⟨_, applies⟩ := functions_see_handled_arguments env
  have handled : Function.mid.handles [.str "TEST", .int 1] = true := rfl
  exact ⟨⟨handled, (applies true .mid _).2 handled⟩, ⟨rfl, rfl⟩, rfl⟩

end Session

end TemplateCalc
