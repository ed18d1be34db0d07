import TemplateCalc.Proofs.Contract.Level
import TemplateCalc.Proofs.Sequence

/-!
Operands uphold a contract, and with them whole evaluations.

Every variable that is set goes through an operand with a name. Such a name was found among the
variables, or neither the variables nor the host knew it when the operand was read.
-/

set_option autoImplicit false

namespace TemplateCalc.Session.Contract

variable {σ α : Type} {k : Contract σ} {env : Surroundings σ} {s : Session σ}
  {nested nested' : Nested σ} {effects : Bool}

/-! ### Symbols of the host -/

theorem upholds_index (lawful : k.Lawful env) (nesting : k.Nesting nested nested')
    (fault : TypeFault) (held : k.holds s) :
    k.Upholds (index nested effects fault) (index nested' effects fault) s (fun _ => k.holds) := by
  apply (upholds_pass lawful held).bind
  intro _ t _ held
  apply ((upholds_comma lawful nesting held).orMissing lawful _).bind
  intro operand t _ fit
  cases operand.value with
  | int n =>
      apply (upholds_expect lawful fit.held _ _).bind
      intro _ t _ held
      exact .of_pure held
  | _ => exact upholds_throw lawful fit.held EvalError.noConfusion

def Answered (env : Surroundings σ) (symbol : Symbol) : Prop :=
  ∃ name parent index, env.host.resolve name parent index = some symbol

/-- A symbol that must be there. -/
theorem upholds_answered (lawful : k.Lawful env) (held : k.holds s) (name : String)
    (parent : Option Symbol) (index : Nat) (fault : SymbolFault) :
    k.Upholds
      (do
        match ← lookup env name parent index with
        | some symbol => return symbol
        | none => throw (.symbol fault))
      (do
        match ← lookup env name parent index with
        | some symbol => return symbol
        | none => throw (.symbol fault)) s (fun symbol t => Answered env symbol ∧ k.holds t) := by
  apply (upholds_lookup lawful held _ _ _).bind
  rintro found t _ ⟨answer, held⟩
  cases found with
  | some symbol => exact .of_pure ⟨⟨_, _, _, answer.symm⟩, held⟩
  | none => exact upholds_throw lawful held EvalError.noConfusion

theorem upholds_member (lawful : k.Lawful env) (held : k.holds s) (parent : Symbol) :
    k.Upholds (member env parent) (member env parent) s
      (fun symbol t => Answered env symbol ∧ k.holds t) := by
  apply (upholds_pass lawful held).bind
  intro _ t _ held
  apply (upholds_advance lawful held).bind
  intro token t _ held
  cases token with
  | word name | quoted name => exact upholds_answered lawful held name _ _ _
  | _ => exact upholds_throw lawful held EvalError.noConfusion

theorem upholds_element (lawful : k.Lawful env) (nesting : k.Nesting nested nested')
    (held : k.holds s) (parent : Symbol) :
    k.Upholds (element env nested effects parent) (element env nested' effects parent) s
      (fun symbol t => Answered env symbol ∧ k.holds t) := by
  apply (upholds_index lawful nesting _ held).bind
  intro i t _ held
  split
  · exact upholds_throw lawful held EvalError.noConfusion
  · exact upholds_answered lawful held _ _ _ _

/-- A path of members and elements. `rest` is what happens at its end. -/
theorem upholds_path (lawful : k.Lawful env) (nesting : k.Nesting nested nested')
    {loop loop' : List Token → Symbol → Eval σ α} {rest : Symbol → Eval σ α}
    {Post : α → Session σ → Prop}
    (goes : ∀ {s : Session σ} {symbol : Symbol}, leadsOn symbol.value s.token = true →
      ∀ round rounds, loop (round :: rounds) symbol s =
        (onward env nested effects symbol s.token >>= loop rounds) s)
    (goes' : ∀ {s : Session σ} {symbol : Symbol}, leadsOn symbol.value s.token = true →
      ∀ round rounds, loop' (round :: rounds) symbol s =
        (onward env nested' effects symbol s.token >>= loop' rounds) s)
    (stops : ∀ {s : Session σ} {symbol : Symbol}, leadsOn symbol.value s.token = false →
      ∀ rounds, loop rounds symbol s = rest symbol s)
    (stops' : ∀ {s : Session σ} {symbol : Symbol}, leadsOn symbol.value s.token = false →
      ∀ rounds, loop' rounds symbol s = rest symbol s)
    (ends : ∀ symbol, loop [] symbol = rest symbol ∧ loop' [] symbol = rest symbol)
    (last : ∀ {s symbol}, Answered env symbol → k.holds s →
      k.Upholds (rest symbol) (rest symbol) s Post)
    (rounds : List Token) (symbol : Symbol) (answered : Answered env symbol) (held : k.holds s) :
    k.Upholds (loop rounds symbol) (loop' rounds symbol) s Post := by
  induction rounds generalizing s symbol with
  | nil =>
      rw [(ends symbol).1, (ends symbol).2]
      exact last answered held
  | cons round rounds ih =>
      cases leads : leadsOn symbol.value s.token with
      | false => exact (last answered held).of_run (stops leads _) (stops' leads _)
      | true =>
          refine Upholds.of_run ?_ (goes leads _ _) (goes' leads _ _)
          have step : k.Upholds (onward env nested effects symbol s.token)
              (onward env nested' effects symbol s.token) s
              (fun symbol t => Answered env symbol ∧ k.holds t) := by
            rcases token_of_leadsOn leads with viewed | viewed <;> rw [viewed]
            · exact upholds_member lawful held symbol
            · exact upholds_element lawful nesting held symbol
          apply step.bind
          rintro symbol t _ ⟨answered, held⟩
          exact ih symbol answered held

theorem upholds_scalar (lawful : k.Lawful env) {symbol : Symbol} (answered : Answered env symbol)
    (held : k.holds s) :
    k.Upholds (scalar symbol.value) (scalar symbol.value) s
      (fun value t => k.sound value ∧ k.holds t) := by
  obtain ⟨name, parent, index, answer⟩ := answered
  have sound := lawful.symbol answer
  cases kind : symbol.value with
  | struct | array | blob => exact upholds_throw lawful held EvalError.noConfusion
  | _ =>
      rw [kind] at sound
      exact .of_pure ⟨sound rfl, held⟩

theorem upholds_navigate (lawful : k.Lawful env) (nesting : k.Nesting nested nested')
    (rounds : List Token) {symbol : Symbol} (answered : Answered env symbol) (held : k.holds s) :
    k.Upholds (navigate env nested effects rounds symbol)
      (navigate env nested' effects rounds symbol) s (fun value t => k.sound value ∧ k.holds t) :=
  upholds_path lawful nesting navigate_step navigate_step navigate_stop navigate_stop
    (fun _ => ⟨rfl, rfl⟩) (fun answered held => upholds_scalar lawful answered held) rounds symbol
    answered held

theorem upholds_pathEnd (lawful : k.Lawful env) (symbol : Symbol) (held : k.holds s) :
    k.Upholds (pathEnd symbol) (pathEnd symbol) s (fun _ => k.holds) := by
  apply Upholds.peek
  split
  · exact upholds_throw lawful held EvalError.noConfusion
  · exact upholds_throw lawful held EvalError.noConfusion
  · exact .of_pure held

theorem upholds_pathFrom (lawful : k.Lawful env) (nesting : k.Nesting nested nested')
    (rounds : List Token) {symbol : Symbol} (answered : Answered env symbol) (held : k.holds s) :
    k.Upholds (pathFrom env nested effects rounds symbol)
      (pathFrom env nested' effects rounds symbol) s (fun _ => k.holds) :=
  upholds_path lawful nesting pathFrom_step pathFrom_step pathFrom_stop pathFrom_stop
    (fun _ => ⟨rfl, rfl⟩) (fun _ held => upholds_pathEnd lawful _ held) rounds symbol answered held

/-! ### Names -/

theorem upholds_indexedName (lawful : k.Lawful env) (nesting : k.Nesting nested nested')
    (name : String) (held : k.holds s) :
    k.Upholds (indexedName nested effects name) (indexedName nested' effects name) s
      (fun found t => (found = name ∨ ∃ i, found = elementName name i) ∧ k.holds t) := by
  apply Upholds.peek
  cases s.token with
  | openBracket =>
      apply (upholds_index lawful nesting _ held).bind
      intro i t _ held
      exact .of_pure ⟨.inr ⟨i, rfl⟩, held⟩
  | _ => exact .of_pure ⟨.inl rfl, held⟩

theorem upholds_named (lawful : k.Lawful env) (nesting : k.Nesting nested nested')
    (stepWaits : Bool) {name : String} (isNamed : k.known name) (held : k.holds s) :
    k.Upholds (named env nested stepWaits effects name) (named env nested' stepWaits effects name) s
      (k.Fit (letsThrough stepWaits)) := by
  apply (upholds_varValue? held name).bind
  rintro found t _ ⟨read, held⟩
  cases found with
  | some value =>
      exact .of_pure (fit_target held (lawful.found held isNamed read.symm)
        (.inl (lawful.reading held read.symm)))
  | none =>
      apply (upholds_lookup lawful held _ _ _).bind
      rintro symbol t _ ⟨answer, held⟩
      cases symbol with
      | some symbol =>
          apply Upholds.get
          apply (upholds_navigate lawful nesting _ ⟨_, _, _, answer.symm⟩ held).bind
          rintro value t _ ⟨sound, held⟩
          exact .of_pure (fit_value held sound)
      | none =>
          obtain ⟨whole, elements⟩ := lawful.unresolved isNamed answer.symm
          apply (upholds_indexedName lawful nesting name held).bind
          rintro found t _ ⟨written, held⟩
          have writable : k.writable found := by
            rcases written with rfl | ⟨i, rfl⟩
            · exact whole
            · exact elements i
          apply (upholds_varValue? held found).bind
          rintro value t _ ⟨read, held⟩
          cases value with
          | some value =>
              exact .of_pure (fit_target held writable (.inl (lawful.reading held read.symm)))
          | none =>
              apply Upholds.peek
              split
              · exact .of_pure (fit_target held writable (.inr ⟨rfl, by assumption⟩))
              · exact upholds_throw lawful held EvalError.noConfusion

theorem upholds_isUnbound (lawful : k.Lawful env) (word : String) (held : k.holds s) :
    k.Upholds (isUnbound env word) (isUnbound env word) s (fun _ => k.holds) := by
  unfold isUnbound
  split
  · exact .of_pure held
  · apply (upholds_varValue? held word).bind
    rintro found t _ ⟨_, held⟩
    cases found with
    | some value => exact .of_pure held
    | none =>
        apply (upholds_lookup lawful held _ _ _).bind
        rintro symbol t _ ⟨_, held⟩
        exact .of_pure held

/-! ### Inquiries -/

theorem upholds_subject (lawful : k.Lawful env) (nesting : k.Nesting nested nested')
    (name : String) (held : k.holds s) :
    k.Upholds (subject env nested effects name) (subject env nested' effects name) s
      (fun _ => k.holds) := by
  apply (upholds_varValue? held name).bind
  rintro found t _ ⟨_, held⟩
  cases found with
  | some value => exact .of_pure held
  | none =>
      apply (upholds_lookup lawful held _ _ _).bind
      rintro symbol t _ ⟨answer, held⟩
      cases symbol with
      | some symbol =>
          apply Upholds.get
          apply (upholds_pathFrom lawful nesting _ ⟨_, _, _, answer.symm⟩ held).bind
          intro symbol t _ held
          exact .of_pure held
      | none =>
          apply (upholds_indexedName lawful nesting name held).bind
          rintro name t _ ⟨_, held⟩
          apply (upholds_varValue? held name).bind
          rintro value t _ ⟨_, held⟩
          cases value with
          | some value => exact .of_pure held
          | none => exact .of_pure held

theorem upholds_subjectName (lawful : k.Lawful env) (held : k.holds s) :
    k.Upholds subjectName subjectName s (fun _ => k.holds) := by
  apply (upholds_advance lawful held).bind
  intro token t _ held
  cases subjectName? token with
  | some name => exact .of_pure held
  | none => exact upholds_throw lawful held EvalError.noConfusion

theorem upholds_inquire (lawful : k.Lawful env) (nesting : k.Nesting nested nested')
    (inquiry : Inquiry) {waits : Token → Bool} (held : k.holds s) :
    k.Upholds (inquire env nested effects inquiry) (inquire env nested' effects inquiry) s
      (k.Fit waits) := by
  have answered (found : Subject) {t : Session σ} (held : k.holds t) :
      k.Upholds (do return { value := ← ofExcept (answer inquiry found) })
        (do return { value := ← ofExcept (answer inquiry found) }) t (k.Fit waits) := by
    apply (upholds_ofExcept lawful held (concrete_answer inquiry found)).bind
    rintro value t _ ⟨concrete, held⟩
    exact .of_pure (fit_concrete lawful held concrete)
  have bare :
      k.Upholds
        (if inquiry = .defined then do
          let name ← subjectName
          let found ← subject env nested effects name
          return { value := ← ofExcept (answer inquiry found) }
        else throw (.grammar (.openingExpected inquiry.name)))
        (if inquiry = .defined then do
          let name ← subjectName
          let found ← subject env nested' effects name
          return { value := ← ofExcept (answer inquiry found) }
        else throw (.grammar (.openingExpected inquiry.name))) s (k.Fit waits) := by
    split
    · apply (upholds_subjectName lawful held).bind
      intro name t _ held
      apply (upholds_subject lawful nesting name held).bind
      intro found t _ held
      exact answered found held
    · exact upholds_throw lawful held EvalError.noConfusion
  apply Upholds.peek
  cases s.token with
  | openParen =>
      apply (upholds_pass lawful held).bind
      intro _ t _ held
      apply (upholds_subjectName lawful held).bind
      intro name t _ held
      apply (upholds_subject lawful nesting name held).bind
      intro found t _ held
      apply (upholds_expect lawful held _ _).bind
      intro _ t _ held
      exact answered found held
  | _ => exact bare

/-! ### Function calls -/

theorem upholds_arguments (lawful : k.Lawful env) (nesting : k.Nesting nested nested')
    (f : Function) (rounds : List Token) (args : List Value) (held : k.holds s) :
    k.Upholds (arguments nested effects f rounds args) (arguments nested' effects f rounds args) s
      (fun _ => k.holds) := by
  induction rounds generalizing s args with
  | nil => exact .of_pure held
  | cons round rounds ih =>
      apply ((upholds_assign lawful nesting held).orMissing lawful _).bind
      intro operand t _ fit
      apply (upholds_ofExcept lawful fit.held (f.proper_checkArgument _ _)).bind
      rintro _ t _ ⟨_, held⟩
      have ends : k.Upholds
          (if (args ++ [operand.value]).length < f.arity.1 then throw f.commaError
            else return args ++ [operand.value])
          (if (args ++ [operand.value]).length < f.arity.1 then throw f.commaError
            else return args ++ [operand.value]) t (fun _ => k.holds) := by
        split
        · exact upholds_throw lawful held (by cases f <;> exact EvalError.noConfusion)
        · exact .of_pure held
      apply Upholds.peek
      cases t.token with
      | comma =>
          cases f.arity.2.all ((args ++ [operand.value]).length < ·) with
          | false => exact ends
          | true =>
              apply (upholds_pass lawful held).bind
              intro _ t _ held
              exact ih _ held
      | _ => exact ends

theorem upholds_ask (lawful : k.Lawful env) (held : k.holds s) (f : Function)
    (kind : QuestionKind) (prompt : String) (question : Dialog σ → σ → Reply α σ) :
    k.Upholds (ask env f kind prompt question) (ask env f kind prompt question) s
      (fun _ => k.holds) := by
  apply (upholds_note lawful held _).bind
  intro _ t _ held
  cases env.dialog with
  | none => exact upholds_throw lawful held EvalError.noConfusion
  | some dialog =>
      apply Upholds.get
      apply (Upholds.change (lawful.replying _ held)).bind
      intro _ t _ held
      apply (upholds_note lawful held _).bind
      intro _ t _ held
      split
      · exact .of_pure held
      · exact upholds_throw lawful held EvalError.noConfusion

theorem upholds_readBytes (lawful : k.Lawful env) (held : k.holds s) (address : Int64)
    (count : Nat) :
    k.Upholds (ofExcept (env.host.readBytes address count))
      (ofExcept (env.host.readBytes address count)) s (fun _ => k.holds) := by
  cases read : env.host.readBytes address count with
  | ok bytes => exact .of_pure held
  | error e =>
      refine .of_error rfl rfl ?_ (lawful.ending held)
      by_cases deep : e = .tooComplex
      · subst deep
        exact lawful.bytes read
      · exact lawful.failing deep

theorem upholds_hosted (lawful : k.Lawful env) (f : Function) (args : List Value)
    (held : k.holds s) :
    k.Upholds (hosted env effects f args) (hosted env effects f args) s
      (fun value t => value.isConcrete = true ∧ k.holds t) := by
  have question {α : Type} (kind : QuestionKind) (prompt : String)
      (question : Dialog σ → σ → Reply α σ) (wrap : α → Value) (initial : Value)
      (wrapped : ∀ a, (wrap a).isConcrete = true) (given : initial.isConcrete = true) :
      k.Upholds
        (if effects then do return wrap (← ask env f kind prompt question) else return initial)
        (if effects then do return wrap (← ask env f kind prompt question) else return initial) s
        (fun value t => value.isConcrete = true ∧ k.holds t) := by
    split
    · apply (upholds_ask lawful held f kind prompt question).bind
      intro a t _ held
      exact .of_pure ⟨wrapped a, held⟩
    · exact .of_pure ⟨given, held⟩
  cases f with
  | rand =>
      apply Upholds.get
      apply (Upholds.change (lawful.drawing _ held)).bind
      intro _ t _ held
      exact .of_pure ⟨rfl, held⟩
  | get =>
      simp only [hosted]
      split
      · apply (upholds_readBytes lawful held _ _).bind
        intro bytes t _ held
        exact .of_pure ⟨rfl, held⟩
      · exact upholds_throw lawful held EvalError.noConfusion
  | getInt => exact question _ _ _ _ _ (fun _ => rfl) rfl
  | getString => exact question _ _ _ _ _ (fun _ => rfl) rfl
  | getBool => exact question _ _ _ _ _ (fun _ => rfl) rfl
  | _ => exact upholds_throw lawful held EvalError.noConfusion

theorem upholds_applyFunction (lawful : k.Lawful env) (f : Function) (args : List Value)
    (held : k.holds s) :
    k.Upholds (applyFunction env effects f args) (applyFunction env effects f args) s
      (fun value t => value.isConcrete = true ∧ k.holds t) := by
  unfold applyFunction
  cases computed : f.result? env.now args with
  | some result => exact upholds_ofExcept lawful held (Function.concrete_result? computed)
  | none => exact upholds_hosted lawful f args held

theorem upholds_closeCall (lawful : k.Lawful env) (f : Function) (args : List Value)
    {waits : Token → Bool} (held : k.holds s) :
    k.Upholds (closeCall env effects f args) (closeCall env effects f args) s (k.Fit waits) := by
  apply Upholds.peek
  have unclosed : f.unclosedError args.length ≠ .tooComplex := by
    unfold Function.unclosedError
    split <;> exact EvalError.noConfusion
  cases s.token with
  | closeParen =>
      apply (upholds_pass lawful held).bind
      intro _ t _ held
      apply (upholds_applyFunction lawful f args held).bind
      rintro value t _ ⟨concrete, held⟩
      exact .of_pure (fit_concrete lawful held concrete)
  | _ => exact upholds_throw lawful held unclosed

theorem upholds_call (lawful : k.Lawful env) (nesting : k.Nesting nested nested') (f : Function)
    {waits : Token → Bool} (held : k.holds s) :
    k.Upholds (call env nested effects f) (call env nested' effects f) s (k.Fit waits) := by
  apply Upholds.peek
  cases s.token with
  | openParen =>
      apply (upholds_pass lawful held).bind
      intro _ t _ held
      split
      · exact upholds_closeCall lawful f [] held
      · apply Upholds.get
        apply (upholds_arguments lawful nesting f _ [] held).bind
        intro args t _ held
        exact upholds_closeCall lawful f args held
  | _ => exact upholds_throw lawful held EvalError.noConfusion

/-! ### Operands -/

theorem upholds_wordOperand (lawful : k.Lawful env) (nesting : k.Nesting nested nested')
    (stepWaits : Bool) {word : String}
    (isNamed : isKeyword (Text.lowercase word) = false → k.known word) (held : k.holds s) :
    k.Upholds (wordOperand env nested stepWaits effects word)
      (wordOperand env nested' stepWaits effects word) s (k.Fit (letsThrough stepWaits)) := by
  unfold wordOperand
  simp only
  split
  · exact .of_pure (fit_concrete lawful held rfl)
  split
  · exact .of_pure (fit_concrete lawful held rfl)
  split
  · exact .of_pure (fit_concrete lawful held rfl)
  split
  · exact upholds_throw lawful held EvalError.noConfusion
  rename_i notTrue notFalse notPi notReserved
  split
  · exact upholds_inquire lawful nesting _ held
  · exact upholds_call lawful nesting _ held
  · rename_i noInquiry noFunction
    have plain : isKeyword (Text.lowercase word) = false := by
      simp only [Bool.not_eq_true] at notReserved
      rw [isKeyword, notReserved, noInquiry, noFunction]
      simp [constantWords, notTrue, notFalse, notPi]
    exact upholds_named lawful nesting stepWaits (isNamed plain) held

theorem upholds_primary (lawful : k.Lawful env) (nesting : k.Nesting nested nested')
    (stepWaits : Bool) (begun : k.starts s) :
    k.Upholds (primary env nested stepWaits effects) (primary env nested' stepWaits effects) s
      (k.Fit (letsThrough stepWaits)) := by
  have constant (more : s.token ≠ .finish) {value : Value} (concrete : value.isConcrete = true) :
      k.Upholds (do discard advance; return { value }) (do discard advance; return { value }) s
        (k.Fit (letsThrough stepWaits)) := by
    apply (upholds_first lawful begun more).bind
    intro _ t _ held
    exact .of_pure (fit_concrete lawful held concrete)
  apply Upholds.peek
  cases viewed : s.token with
  | int n => exact constant (by simp [viewed]) rfl
  | real x => exact constant (by simp [viewed]) rfl
  | str text => exact constant (by simp [viewed]) rfl
  | quoted name =>
      apply (upholds_first lawful begun (by simp [viewed])).bind
      intro _ t _ held
      exact upholds_named lawful nesting stepWaits (lawful.quoted begun viewed) held
  | word w =>
      apply (upholds_first lawful begun (by simp [viewed])).bind
      intro _ t _ held
      exact upholds_wordOperand lawful nesting stepWaits (lawful.word begun viewed) held
  | openParen =>
      apply (upholds_first lawful begun (by simp [viewed])).bind
      intro _ t _ held
      apply ((upholds_comma lawful nesting held).orMissing lawful _).bind
      intro inner t _ fit
      have sound := fit.sound rfl
      apply (upholds_expect lawful fit.held _ _).bind
      intro _ t _ held
      exact .of_pure (fit_value held sound)
  | _ =>
      exact .of_error rfl rfl (lawful.failing EvalError.noConfusion) (lawful.refusing begun)

theorem upholds_postfixTurn (lawful : k.Lawful env) (nesting : k.Nesting nested nested')
    {waits : Token → Bool} (operand : Operand) (fit : k.Fit waits operand s)
    (goes : isPostfix s.token = true) :
    k.Upholds (postfixTurn nested effects operand s.token)
      (postfixTurn nested' effects operand s.token) s (k.Fit waits) := by
  cases viewed : s.token with
  | openBracket =>
      simp only [postfixTurn]
      cases operand.value with
      | str text =>
          apply (upholds_index lawful nesting _ fit.held).bind
          intro i t _ held
          apply (upholds_ofExcept lawful held (Value.concrete_charAt i)).bind
          rintro value t _ ⟨concrete, held⟩
          exact .of_pure (fit_concrete lawful held concrete)
      | _ => exact upholds_throw lawful fit.held EvalError.noConfusion
  | dot => exact upholds_throw lawful fit.held EvalError.noConfusion
  | step step =>
      apply (upholds_pass lawful fit.held).bind
      intro _ t _ held
      cases target : operand.target with
      | none => exact upholds_throw lawful held EvalError.noConfusion
      | some name =>
          cases operand.value with
          | int n =>
              apply (upholds_store lawful held _ (fit.target target) (lawful.concrete rfl)).bind
              intro _ t _ held
              exact .of_pure (fit_concrete lawful held rfl)
          | _ => exact upholds_throw lawful held EvalError.noConfusion
  | _ =>
      rw [viewed] at goes
      cases goes

theorem Fit.of_stop {stepWaits : Bool} {operand : Operand}
    (fit : k.Fit (letsThrough stepWaits) operand s) (stop : isPostfix s.token = false) :
    k.Fit (awaited (.prefixed stepWaits)) operand s := by
  have noStep : s.token.isStep = false := by
    cases viewed : s.token with
    | step step =>
        rw [viewed] at stop
        cases stop
    | _ => rfl
  apply fit.narrow
  intro waiting
  rw [letsThrough, noStep, Bool.or_false] at waiting
  exact waiting

/-- The loop has a round for every token, so it leaves no step behind that a placeholder could wait
for. -/
theorem upholds_postfixTail (lawful : k.Lawful env) (nesting : k.Nesting nested nested')
    (stepWaits : Bool) (rounds : List Token) (operand : Operand)
    (fit : k.Fit (letsThrough stepWaits) operand s) (enough : s.left ≤ rounds.length) :
    k.Upholds (postfixTail nested effects rounds operand)
      (postfixTail nested' effects rounds operand) s (k.Fit (awaited (.prefixed stepWaits))) := by
  induction rounds generalizing s operand with
  | nil =>
      cases goes : isPostfix s.token with
      | false => exact (Upholds.of_pure (fit.of_stop goes)).of_run rfl rfl
      | true =>
          have more : s.token ≠ .finish := by
            intro atEnd
            rw [atEnd] at goes
            cases goes
          obtain ⟨_, _, impossible⟩ := rounds_of_left enough more
          cases impossible
  | cons round rounds ih =>
      cases goes : isPostfix s.token with
      | false =>
          exact (Upholds.of_pure (fit.of_stop goes)).of_run (postfixTail_stop goes _ _)
            (postfixTail_stop goes _ _)
      | true =>
          refine Upholds.of_run ?_ (postfixTail_step goes _ _ _) (postfixTail_step goes _ _ _)
          apply (upholds_postfixTurn lawful nesting operand fit goes).bind
          intro operand t ran fit
          have taken := left_postfixTurn_lt nesting.taking.consuming _ goes ran
          simp only [List.length_cons] at enough
          exact ih operand fit (by omega)

theorem upholds_postfixed (lawful : k.Lawful env) (nesting : k.Nesting nested nested')
    (stepWaits : Bool) (begun : k.starts s) :
    k.Upholds (postfixed env nested stepWaits effects) (postfixed env nested' stepWaits effects) s
      (k.Fit (awaited (.prefixed stepWaits))) := by
  apply (upholds_primary lawful nesting stepWaits begun).bind
  intro operand t _ fit
  apply Upholds.get
  exact upholds_postfixTail lawful nesting stepWaits _ operand fit (left_le_ahead t)

theorem upholds_prefixOp (lawful : k.Lawful env) (nesting : k.Nesting nested nested')
    (op : PrefixOp) {waits : Token → Bool} (begun : k.starts s) (more : s.token ≠ .finish) :
    k.Upholds (prefixOp nested effects op) (prefixOp nested' effects op) s (k.Fit waits) := by
  apply (upholds_first lawful begun more).bind
  intro _ t _ held
  apply ((nesting.upholds effects (lawful.operand false held)).orMissing lawful _).bind
  intro operand t _ fit
  apply (upholds_ofExcept lawful fit.held (op.concrete_apply _)).bind
  rintro value t _ ⟨concrete, held⟩
  exact .of_pure (fit_concrete lawful held concrete)

theorem upholds_applyPreStep (lawful : k.Lawful env) (step : Step) {waits waits' : Token → Bool}
    {operand : Operand} (fit : k.Fit waits operand s) :
    k.Upholds (applyPreStep effects step operand) (applyPreStep effects step operand) s
      (k.Fit waits') := by
  unfold applyPreStep
  cases target : operand.target with
  | none => exact upholds_throw lawful fit.held EvalError.noConfusion
  | some name =>
      cases operand.value with
      | int n =>
          apply (upholds_store lawful fit.held _ (fit.target target) (lawful.concrete rfl)).bind
          intro _ t _ held
          exact .of_pure (fit_concrete lawful held rfl)
      | _ => exact upholds_throw lawful fit.held EvalError.noConfusion

theorem upholds_preStep (lawful : k.Lawful env) (nesting : k.Nesting nested nested') (step : Step)
    {waits : Token → Bool} (begun : k.starts s) (more : s.token ≠ .finish) :
    k.Upholds (preStep env nested effects step) (preStep env nested' effects step) s
      (k.Fit waits) := by
  apply (upholds_first lawful begun more).bind
  intro _ t _ held
  apply Upholds.peek
  have waiting : k.Upholds (stepWaitsFor env t.token) (stepWaitsFor env t.token) t
      (fun _ => k.holds) := by
    cases t.token with
    | word w => exact upholds_isUnbound lawful w held
    | _ => exact .of_pure held
  apply waiting.bind
  intro stepWaits t _ held
  apply ((nesting.upholds effects (lawful.operand stepWaits held)).rethrow _ ?_).bind
  · intro operand t _ fit
    exact upholds_applyPreStep lawful step fit
  · intro e before
    cases e with
    | notImplemented => exact lawful.failing EvalError.noConfusion
    | _ => exact before

theorem upholds_prefixed (lawful : k.Lawful env) (nesting : k.Nesting nested nested')
    (stepWaits : Bool) (begun : k.starts s) :
    k.Upholds (prefixed env nested stepWaits effects) (prefixed env nested' stepWaits effects) s
      (k.Fit (awaited (.prefixed stepWaits))) := by
  apply Upholds.peek
  split
  · exact upholds_prefixOp lawful nesting _ begun (by simp [*])
  · exact upholds_prefixOp lawful nesting _ begun (by simp [*])
  · exact upholds_prefixOp lawful nesting _ begun (by simp [*])
  · exact upholds_prefixOp lawful nesting _ begun (by simp [*])
  · exact upholds_preStep lawful nesting _ begun (by simp [*])
  · exact upholds_postfixed lawful nesting stepWaits begun

/-! ### Nesting -/

/-- Where a production begins: an operand in front of its first token, every other one between two
steps. -/
def begins (k : Contract σ) : Production → Session σ → Prop
  | .prefixed _ => k.starts
  | _ => k.holds

theorem upholds_production (lawful : k.Lawful env) (nesting : k.Nesting nested nested')
    (p : Production) (begun : k.begins p s) :
    k.Upholds (production env nested p effects) (production env nested' p effects) s
      (k.Fit (awaited p)) := by
  cases p with
  | comma => exact upholds_comma lawful nesting begun
  | assign => exact upholds_assign lawful nesting begun
  | ternary => exact upholds_ternary lawful nesting begun
  | prefixed stepWaits => exact upholds_prefixed lawful nesting stepWaits begun

structure Sinks (outer inner : Contract σ) : Prop where
  entering : ∀ {p s}, outer.enters p s → inner.begins p { s with depth := s.depth + 1 }
  leaving : ∀ {p s t}, outer.enters p s → inner.holds t →
    outer.holds { t with depth := t.depth - 1 }
  failing : ∀ {p s t}, outer.enters p s → inner.ended t →
    outer.ended { t with depth := t.depth - 1 }
  tolerated : ∀ {e}, inner.tolerated e → outer.tolerated e
  writable : ∀ {name}, inner.writable name → outer.writable name
  sound : ∀ {value}, inner.sound value → outer.sound value

theorem upholds_deeper {outer inner : Contract σ} (sinks : Sinks outer inner) {p : Production}
    (entered : outer.enters p s) {m m' : Eval σ Operand} {waits : Token → Bool}
    (upholds : inner.Upholds m m' { s with depth := s.depth + 1 } (inner.Fit waits)) :
    outer.Upholds (deeper m) (deeper m') s (outer.Fit waits) := by
  have same : deeper m' s = deeper m s := by
    unfold deeper
    rw [upholds.same]
  cases outcome : m { s with depth := s.depth + 1 } with
  | mk result t =>
      cases result with
      | ok a =>
          have fit := upholds.ok outcome
          refine .of_ok (run_deeper_ok outcome) same ⟨sinks.leaving entered fit.held, ?_, ?_⟩
          · intro name found
            exact sinks.writable (fit.target found)
          · exact fit.value.imp_left sinks.sound
      | error e =>
          obtain ⟨tolerated, ended⟩ := upholds.error outcome
          exact .of_error (run_deeper_error outcome) same (sinks.tolerated tolerated)
            (sinks.failing entered ended)

/-- A family of contracts, one for each number of levels that there is still room for. The other
evaluation goes the same way as `nest` wherever its productions may be entered. -/
theorem nesting {k : Nat → Contract σ} {other : Nat → Nested σ}
    (lawful : ∀ room, (k room).Lawful env) (sinks : ∀ room, Sinks (k (room + 1)) (k room))
    (full : ∀ {p s} (effects : Bool), (k 0).enters p s →
      (k 0).tolerated .tooComplex ∧ (k 0).ended s ∧
        other 0 p effects s = (throw .tooComplex : Eval σ Operand) s)
    (goes : ∀ {room p s} (effects : Bool), (k (room + 1)).enters p s →
      other (room + 1) p effects s = deeper (production env (other room) p effects) s)
    (room : Nat) : (k room).Nesting (nest env room) (other room) := by
  induction room with
  | zero =>
      refine ⟨taking_nest env 0, ?_⟩
      intro p s effects enters
      obtain ⟨tolerated, ended, same⟩ := full effects enters
      exact .of_error rfl same tolerated ended
  | succ room ih =>
      refine ⟨taking_nest env _, ?_⟩
      intro p s effects enters
      refine Upholds.of_run ?_ rfl (goes effects enters)
      apply upholds_deeper (sinks room) enters
      exact upholds_production (lawful room) ih p ((sinks room).entering enters)

/-- One contract for all levels, and no other evaluation. -/
theorem nesting_alone (lawful : k.Lawful env) (sinks : Sinks k k)
    (tolerated : k.tolerated .tooComplex) (ended : ∀ {p s}, k.enters p s → k.ended s) (room : Nat) :
    k.Nesting (nest env room) (nest env room) :=
  nesting (k := fun _ => k) (fun _ => lawful) (fun _ => sinks)
    (fun _ enters => ⟨tolerated, ended enters, rfl⟩) (fun _ _ => rfl) room

/-- The whole of the tokens, evaluated by `whole` or with other nested productions. -/
theorem upholds_expression (lawful : k.Lawful env) (nesting : k.Nesting nested nested')
    (held : k.holds s) :
    k.Upholds (orMissing .expression (comma nested effects) >>= complete)
      (orMissing .expression (comma nested' effects) >>= complete) s
      (fun value t => k.sound value ∧ k.holds t) := by
  apply ((upholds_comma lawful nesting held).orMissing lawful _).bind
  intro operand t _ fit
  apply Upholds.peek
  cases t.token with
  | finish => exact .of_pure ⟨fit.sound rfl, fit.held⟩
  | _ => exact upholds_throw lawful fit.held EvalError.noConfusion

end TemplateCalc.Session.Contract

namespace TemplateCalc.Calculator

open Session

variable {σ : Type} {env : Surroundings σ} {options : EvalOptions} {c : Calculator σ}
  {text : String}

/-! ### Whole evaluations -/

structure Opens (c : Calculator σ) (reading : Scan.Reading) (s : Session σ) : Prop where
  vars : s.vars = c.vars
  depth : s.depth = 0
  left : s.left ≤ reading.tokens.length
  ahead : ∀ token ∈ s.ahead, token ∈ reading.tokens ∨ token = .finish

theorem opens_of_session? {reading : Scan.Reading} {s : Session σ}
    (opened : c.session? reading = .ok s) : Opens c reading s := by
  rcases reading with ⟨_ | ⟨token, rest⟩, fault⟩
  · cases fault with
    | some fault => cases opened
    | none =>
        cases opened
        refine ⟨rfl, rfl, Nat.le_refl _, ?_⟩
        intro token member
        exact .inr (List.mem_singleton.mp member)
  · cases opened
    refine ⟨rfl, rfl, remaining_le token rest, ?_⟩
    intro token member
    exact .inl member

/-- A contract that holds at the start tells of the result, of the error and of the variables at the
end. -/
theorem evaluate_upholds {k : Contract σ} (lawful : k.Lawful env)
    (nesting : k.Nesting (nest env options.maxDepth) (nest env options.maxDepth))
    (start : ∀ {s}, Opens c (Scan.scan options.rules text) s → k.holds s) (good : Store → Prop)
    (before : good c.vars) (behind : ∀ {t}, k.ended t → good t.vars) :
    (∀ {value}, (c.evaluate env options text).result = .ok value → k.sound value) ∧
      (∀ {e}, (c.evaluate env options text).result = .error e → k.tolerated e) ∧
      good (c.evaluate env options text).calculator.vars := by
  obtain ⟨sameResult, sameCalculator⟩ := evaluate_eq env options c text
  rw [sameResult, sameCalculator]
  -- a text whose first token cannot be read fails before there is a session
  cases opened : c.session? (Scan.scan options.rules text) with
  | error fault =>
      rw [run_of_fault opened]
      refine ⟨?_, ?_, before⟩
      · intro value impossible
        cases impossible
      · intro e failed
        cases failed
        exact lawful.failing EvalError.noConfusion
  | ok s =>
      rw [run_of_session opened]
      have upholds : k.Upholds (whole env options.maxDepth options.sideEffects) _ s _ :=
        Contract.upholds_expression lawful nesting (start (opens_of_session? opened))
      cases ran : whole env options.maxDepth options.sideEffects s with
      | mk result t =>
          cases result with
          | ok value =>
              obtain ⟨sound, held⟩ := upholds.ok ran
              refine ⟨?_, ?_, behind (lawful.ending held)⟩
              · intro value' found
                cases found
                exact sound
              · intro e impossible
                cases impossible
          | error e =>
              obtain ⟨tolerated, ended⟩ := upholds.error ran
              refine ⟨?_, ?_, behind ended⟩
              · intro value impossible
                cases impossible
              · intro e' failed
                cases failed
                exact tolerated

end TemplateCalc.Calculator
