import TemplateCalc.Proofs.Passage.Level

/-!
The rows of tokens that operands take.

Whatever is written in the brackets of an operand, the brackets are closed behind it, and outside of
them it has neither a comma nor an assignment nor the marks of a conditional.
-/

set_option autoImplicit false

namespace TemplateCalc.Session

variable {σ α : Type} {env : Surroundings σ} {nested : Nested σ} {effects : Bool}
  {brackets : List Bracket}

theorem walks_index (parsing : Parsing nested) (fault : TypeFault) :
    WalksAt .openBracket brackets brackets (index nested effects fault) := by
  apply walksAt_pass (fun _ _ => rfl)
  apply (((segmented_comma parsing).walks .square brackets).orMissing _).bind
  intro operand
  split
  · apply (walks_closeBracket brackets _).bind
    intro _
    exact walks_pure _ _
  · exact walks_throw _ _ _

/-! ### Paths -/

theorem walks_memberNamed (parent : Symbol) (name : String) :
    Walks brackets brackets (memberNamed env parent name) := by
  apply ((still_lookup env _ _ _).walks brackets).bind
  intro found
  split
  · exact walks_pure _ _
  · exact walks_throw _ _ _

theorem walks_member (parent : Symbol) :
    WalksAt .dot brackets brackets (member env parent) := by
  apply walksAt_pass (fun _ _ => rfl)
  apply walks_take
  intro token
  split
  · exact .inl ⟨fun _ _ => rfl, walks_memberNamed parent _⟩
  · exact .inl ⟨fun _ _ => rfl, walks_memberNamed parent _⟩
  · exact .inr fun s b t => nofun

theorem walks_element (parsing : Parsing nested) (parent : Symbol) :
    WalksAt .openBracket brackets brackets (element env nested effects parent) := by
  apply (walks_index parsing _).bind
  intro i
  split
  · exact walks_throw _ _ _
  · apply ((still_lookup env _ _ _).walks brackets).bind
    intro found
    split
    · exact walks_pure _ _
    · exact walks_throw _ _ _

theorem walks_scalar (value : Value) : Walks brackets brackets (scalar value : Eval σ Value) := by
  cases value <;> first | exact walks_throw _ _ _ | exact walks_pure _ _

theorem walks_navigate (parsing : Parsing nested) (rounds : List Token) (symbol : Symbol) :
    Walks brackets brackets (navigate env nested effects rounds symbol) := by
  induction rounds generalizing symbol with
  | nil => exact walks_scalar _
  | cons round rounds ih =>
      unfold navigate
      apply walks_peek
      intro token
      split
      · exact (walks_member symbol).bind ih
      · exact (walks_element parsing symbol).bind ih
      · exact (walks_element parsing symbol).bind ih
      · exact (walks_scalar _).at _

theorem walks_pathEnd (symbol : Symbol) :
    Walks brackets brackets (pathEnd symbol : Eval σ Symbol) := by
  apply walks_peek
  intro token
  split
  · exact (walks_throw _ _ _).at _
  · exact (walks_throw _ _ _).at _
  · exact (walks_pure _ _).at _

theorem walks_pathFrom (parsing : Parsing nested) (rounds : List Token) (symbol : Symbol) :
    Walks brackets brackets (pathFrom env nested effects rounds symbol) := by
  induction rounds generalizing symbol with
  | nil => exact walks_pathEnd _
  | cons round rounds ih =>
      unfold pathFrom
      apply walks_peek
      intro token
      split
      · exact (walks_member symbol).bind ih
      · exact (walks_element parsing symbol).bind ih
      · exact (walks_element parsing symbol).bind ih
      · exact (walks_pathEnd _).at _

/-! ### Names and inquiries -/

theorem walks_indexedName (parsing : Parsing nested) (name : String) :
    Walks brackets brackets (indexedName nested effects name) := by
  apply walks_peek
  intro token
  split
  · apply (walks_index parsing _).bind
    intro i
    exact walks_pure _ _
  · exact (walks_pure _ _).at _

theorem walks_named (parsing : Parsing nested) (stepWaits : Bool) (name : String) :
    Walks brackets brackets (named env nested stepWaits effects name) := by
  apply ((still_varValue? _).walks brackets).bind
  intro value
  split
  · exact walks_pure _ _
  · apply ((still_lookup env _ _ _).walks brackets).bind
    intro found
    split
    · apply walks_get
      intro s
      apply (walks_navigate parsing _ _).bind
      intro value
      exact walks_pure _ _
    · apply (walks_indexedName parsing _).bind
      intro name
      apply ((still_varValue? _).walks brackets).bind
      intro value
      split
      · exact walks_pure _ _
      · apply walks_peek
        intro token
        split
        · exact (walks_pure _ _).at _
        · exact (walks_throw _ _ _).at _

theorem walks_subject (parsing : Parsing nested) (name : String) :
    Walks brackets brackets (subject env nested effects name) := by
  apply ((still_varValue? _).walks brackets).bind
  intro value
  split
  · exact walks_pure _ _
  · apply ((still_lookup env _ _ _).walks brackets).bind
    intro found
    split
    · apply walks_get
      intro s
      apply (walks_pathFrom parsing _ _).bind
      intro symbol
      exact walks_pure _ _
    · apply (walks_indexedName parsing _).bind
      intro name
      apply ((still_varValue? _).walks brackets).bind
      intro value
      split
      · exact walks_pure _ _
      · exact walks_pure _ _

theorem walks_subjectName : Walks brackets brackets (subjectName : Eval σ String) := by
  apply walks_take
  intro token
  cases token with
  | word | quoted => exact .inl ⟨fun _ _ => rfl, walks_pure _ _⟩
  | _ => exact .inr fun s b t => nofun

theorem walks_inquire (parsing : Parsing nested) (inquiry : Inquiry) :
    Walks brackets brackets (inquire env nested effects inquiry) := by
  have named (brackets : List Bracket) {f : Subject → Eval σ Operand} {inner : List Bracket}
      (behind : ∀ found, Walks brackets inner (f found)) :
      Walks brackets inner (do
        let name ← subjectName
        let found ← subject env nested effects name
        f found) := by
    apply walks_subjectName.bind
    intro name
    exact (walks_subject parsing name).bind behind
  apply walks_peek
  intro token
  split
  · apply walksAt_pass (fun _ _ => rfl)
    apply named (.paren :: brackets)
    intro found
    apply (walks_closeParen brackets _).bind
    intro _
    apply (walks_ofExcept _ _).bind
    intro value
    exact walks_pure _ _
  · split
    · apply (named brackets ?_).at
      intro found
      apply (walks_ofExcept _ _).bind
      intro value
      exact walks_pure _ _
    · exact (walks_throw _ _ _).at _

/-! ### Function calls -/

theorem walks_arguments (parsing : Parsing nested) (f : Function) (rounds : List Token)
    (args : List Value) :
    Walks (.paren :: brackets) (.paren :: brackets) (arguments nested effects f rounds args) := by
  induction rounds generalizing args with
  | nil => exact walks_pure _ _
  | cons round rounds ih =>
      apply (((segmented_assign parsing).walks .paren brackets).orMissing _).bind
      intro operand
      apply (walks_ofExcept _ _).bind
      intro _
      apply walks_peek
      intro token
      split
      · exact walksAt_pass (fun _ _ => rfl) (ih _)
      · split
        · exact (walks_throw _ _ _).at _
        · exact (walks_pure _ _).at _

theorem still_ask (f : Function) (kind : QuestionKind) (prompt : String)
    (question : Dialog σ → σ → Reply α σ) : Still (ask env f kind prompt question) := by
  apply (still_note _).bind
  intro _
  split
  · exact still_throw _
  · apply still_change (fun s => { s with dialog := _ })
    · exact fun s => ⟨rfl, rfl⟩
    · intro s
      apply (still_note _).bind
      intro _
      split
      · exact still_pure _
      · exact still_throw _

theorem still_hosted (f : Function) (args : List Value) :
    Still (hosted env effects f args) := by
  cases f with
  | rand => exact fun s => ⟨rfl, rfl⟩
  | get =>
      unfold hosted
      simp only
      split
      · exact (still_ofExcept _).bind fun _ => still_pure _
      · exact still_throw _
  | getInt | getString | getBool =>
      cases effects with
      | false => exact still_pure _
      | true => exact (still_ask _ _ _ _).bind fun _ => still_pure _
  | _ => exact still_throw _

theorem still_applyFunction (f : Function) (args : List Value) :
    Still (applyFunction env effects f args) := by
  unfold applyFunction
  split
  · exact still_ofExcept _
  · exact still_hosted f args

theorem walks_closeCall (f : Function) (args : List Value) :
    Walks (.paren :: brackets) brackets (closeCall env effects f args) := by
  apply walks_peek
  intro token
  split
  · apply walksAt_pass (fun _ _ => rfl)
    apply ((still_applyFunction f args).walks brackets).bind
    intro value
    exact walks_pure _ _
  · exact (walks_throw _ _ _).at _

theorem walks_call (parsing : Parsing nested) (f : Function) :
    Walks brackets brackets (call env nested effects f) := by
  apply walks_peek
  intro token
  split
  · apply walksAt_pass (fun _ _ => rfl)
    split
    · exact walks_closeCall f _
    · apply walks_get
      intro s
      apply (walks_arguments parsing f _ _).bind
      intro args
      exact walks_closeCall f args
  · exact (walks_throw _ _ _).at _

/-! ### Operands -/

theorem walks_wordOperand (parsing : Parsing nested) (stepWaits : Bool) (word : String) :
    Walks brackets brackets (wordOperand env nested stepWaits effects word) := by
  unfold wordOperand
  simp only
  split
  · exact walks_pure _ _
  · split
    · exact walks_pure _ _
    · split
      · exact walks_pure _ _
      · split
        · exact walks_throw _ _ _
        · split
          · exact walks_inquire parsing _
          · exact walks_call parsing _
          · exact walks_named parsing _ _

theorem walks_primary (parsing : Parsing nested) (stepWaits : Bool) :
    Walks brackets brackets (primary env nested stepWaits effects) := by
  apply walks_peek
  intro token
  split
  · exact walksAt_pass (fun _ _ => rfl) (walks_pure _ _)
  · exact walksAt_pass (fun _ _ => rfl) (walks_pure _ _)
  · exact walksAt_pass (fun _ _ => rfl) (walks_pure _ _)
  · exact walksAt_pass (fun _ _ => rfl) (walks_named parsing _ _)
  · exact walksAt_pass (fun _ _ => rfl) (walks_wordOperand parsing _ _)
  · apply walksAt_pass (fun _ _ => rfl)
    apply (((segmented_comma parsing).walks .paren brackets).orMissing _).bind
    intro inner
    apply (walks_closeParen brackets _).bind
    intro _
    exact walks_pure _ _
  · exact (walks_throw _ _ _).at _

theorem walks_postfixTail (parsing : Parsing nested) (rounds : List Token) (operand : Operand) :
    Walks brackets brackets (postfixTail nested effects rounds operand) := by
  induction rounds generalizing operand with
  | nil => exact walks_pure _ _
  | cons round rounds ih =>
      unfold postfixTail
      apply walks_peek
      intro token
      split
      · split
        · apply (walks_index parsing _).bind
          intro i
          apply (walks_ofExcept _ _).bind
          intro value
          exact ih _
        · exact (walks_throw _ _ _).at _
      · exact (walks_throw _ _ _).at _
      · apply walksAt_pass (fun _ _ => rfl)
        split
        · apply ((still_store _ _ _).walks brackets).bind
          intro _
          exact ih _
        · exact walks_throw _ _ _
      · exact (walks_pure _ _).at _

theorem walks_postfixed (parsing : Parsing nested) (stepWaits : Bool) :
    Walks brackets brackets (postfixed env nested stepWaits effects) := by
  apply (walks_primary parsing _).bind
  intro operand
  apply walks_get
  intro s
  exact walks_postfixTail parsing _ _

theorem walksAt_prefixOp (parsing : Parsing nested) (op : PrefixOp) {token : Token}
    (crosses : Crosses token brackets brackets) :
    WalksAt token brackets brackets (prefixOp nested effects op) := by
  apply walksAt_pass crosses
  apply ((parsing.operand _ _ _).orMissing _).bind
  intro operand
  apply (walks_ofExcept _ _).bind
  intro value
  exact walks_pure _ _

theorem still_isUnbound (word : String) : Still (isUnbound env word) := by
  unfold isUnbound
  split
  · exact still_pure _
  · apply (still_varValue? _).bind
    intro value
    split
    · exact still_pure _
    · exact (still_lookup env _ _ _).bind fun _ => still_pure _

theorem still_stepWaitsFor (token : Token) : Still (stepWaitsFor env token) := by
  cases token with
  | word word => exact still_isUnbound word
  | _ => exact still_pure _

theorem still_applyPreStep (step : Step) (operand : Operand) :
    Still (applyPreStep effects step operand : Eval σ Operand) := by
  unfold applyPreStep
  split
  · exact (still_store _ _ _).bind fun _ => still_pure _
  · exact still_throw _

theorem walksAt_preStep (parsing : Parsing nested) (step : Step) :
    WalksAt (.step step) brackets brackets (preStep env nested effects step) := by
  apply walksAt_pass (fun _ _ => rfl)
  apply walks_peek
  intro token
  apply Walks.at
  apply ((still_stepWaitsFor token).walks brackets).bind
  intro stepWaits
  apply ((parsing.operand _ _ _).rethrow _).bind
  intro operand
  exact (still_applyPreStep step operand).walks brackets

theorem walks_prefixed (parsing : Parsing nested) (stepWaits : Bool) :
    Walks brackets brackets (prefixed env nested stepWaits effects) := by
  apply walks_peek
  intro token
  split
  · exact walksAt_prefixOp parsing _ (fun _ _ => rfl)
  · exact walksAt_prefixOp parsing _ (fun _ _ => rfl)
  · exact walksAt_prefixOp parsing _ (fun _ _ => rfl)
  · exact walksAt_prefixOp parsing _ (fun _ _ => rfl)
  · exact walksAt_preStep parsing _
  · exact (walks_postfixed parsing _).at _

/-! ### Nesting -/

theorem Walks.deeper {m : Eval σ α} {outer inner : List Bracket} (walks : Walks outer inner m) :
    Walks outer inner (deeper m) := by
  intro s a t ran
  obtain ⟨u, inside, rfl⟩ := exists_of_deeper ran
  obtain ⟨tokens, passed, covers⟩ := walks _ a u inside
  exact ⟨tokens, ⟨passed.finish_not_mem, passed.fault, passed.ahead⟩, covers⟩

theorem Segmented.deeper {m : Eval σ α} (segmented : Segmented m) : Segmented (deeper m) := by
  intro s a t ran
  obtain ⟨u, inside, rfl⟩ := exists_of_deeper ran
  obtain ⟨tokens, passed, segment⟩ := segmented _ a u inside
  exact ⟨tokens, ⟨passed.finish_not_mem, passed.fault, passed.ahead⟩, segment⟩

theorem segmented_production (env : Surroundings σ) (parsing : Parsing nested) (p : Production) :
    Segmented (production env nested p effects) := by
  cases p with
  | comma => exact segmented_comma parsing
  | assign => exact segmented_assign parsing
  | ternary => exact segmented_ternary parsing
  | prefixed stepWaits =>
      intro s a t ran
      obtain ⟨tokens, passed, (quiet : Quiet [] tokens)⟩ :=
        walks_prefixed parsing stepWaits s a t ran
      have some := passed.ne_nil (strict_prefixed env parsing.taking.consuming stepWaits s a t ran)
      exact ⟨tokens, passed, quiet.first some, quiet.matched⟩

/-- Nested productions take such rows, however deep they may nest. -/
theorem parsing_nest (env : Surroundings σ) (room : Nat) : Parsing (nest env room) := by
  induction room with
  | zero =>
      refine ⟨taking_nest env 0, fun _ _ _ => walks_throw _ _ _, ?_⟩
      intro p effects s a t ran
      cases ran
  | succ room ih =>
      refine ⟨taking_nest env _, fun _ _ _ => (walks_prefixed ih _).deeper, fun p effects => ?_⟩
      exact (segmented_production env ih p).deeper

end TemplateCalc.Session
