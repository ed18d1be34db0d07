import TemplateCalc.Proofs.Frame

/-!
The tokens that are left.

No step brings tokens back, and passing over a token that is not the end takes one away. A loop that
is given one round for each token ahead therefore never runs out of rounds before the end of the
text.
-/

set_option autoImplicit false

namespace TemplateCalc.Session

variable {σ α β : Type}

def remaining : Token → List Token → Nat
  | .finish, [] => 0
  | _, rest => rest.length + 1

def left (s : Session σ) : Nat :=
  remaining s.token s.rest

theorem remaining_le (token : Token) (rest : List Token) :
    remaining token rest ≤ rest.length + 1 := by
  unfold remaining
  split
  · exact Nat.zero_le _
  · exact Nat.le_refl _

theorem remaining_of_ne_finish {token : Token} (rest : List Token) (more : token ≠ .finish) :
    remaining token rest = rest.length + 1 := by
  unfold remaining
  split
  · contradiction
  · rfl

theorem remaining_cons_lt (token next : Token) (rest : List Token) :
    remaining next rest < remaining token (next :: rest) := by
  have bound := remaining_le next rest
  have exactly : remaining token (next :: rest) = rest.length + 1 + 1 := by
    unfold remaining
    split
    · rename_i impossible
      cases impossible
    · rfl
  omega

theorem left_le_ahead (s : Session σ) : s.left ≤ s.ahead.length :=
  remaining_le s.token s.rest

theorem left_pos {s : Session σ} (more : s.token ≠ .finish) : 0 < s.left := by
  unfold left
  rw [remaining_of_ne_finish _ more]
  omega

/-! ### Steps -/

theorem left_advance_le (s : Session σ) : (advance s).2.left ≤ s.left := by
  cases s with
  | mk token rest fault vars random dialog depth journal =>
      cases rest with
      | cons next rest => exact Nat.le_of_lt (remaining_cons_lt token next rest)
      | nil =>
          cases fault with
          | none => exact Nat.zero_le _
          | some fault => exact Nat.le_refl _

/-- Passing over a token that is not the end takes one away. -/
theorem left_advance_lt {s t : Session σ} {token : Token} (more : s.token ≠ .finish)
    (passed : advance s = (.ok token, t)) : t.left < s.left := by
  cases s with
  | mk token rest fault vars random dialog depth journal =>
      cases rest with
      | cons next rest =>
          cases passed
          exact remaining_cons_lt token next rest
      | nil =>
          cases fault with
          | none =>
              cases passed
              exact left_pos more
          | some fault => cases passed

theorem remaining_le_of_skips {branch : Branch} {fault : Option LexicalFault}
    {found : Token × List Token} {brackets : List Bracket} {pending : Nat} {skipped : Bool}
    {token : Token} {rest : List Token}
    (skips : Skips branch fault found brackets pending skipped token rest) :
    remaining found.1 found.2 ≤ remaining token rest := by
  induction skips with
  | halt _ => exact Nat.le_refl _
  | last _ _ => exact Nat.zero_le _
  | @more found _ _ _ _ _ token next rest _ _ ih =>
      have shorter := remaining_cons_lt token next rest
      exact Nat.le_trans ih (Nat.le_of_lt shorter)

theorem left_skipOperand_le (branch : Branch) (s : Session σ) :
    (skipOperand branch s).2.left ≤ s.left := by
  rw [run_skipOperand]
  cases passed : skipBranch branch s.fault [] 0 false s.token s.rest with
  | ok found => exact remaining_le_of_skips (skips_of_skipBranch passed)
  | error e => exact Nat.le_refl _

/-- No evaluation step brings tokens back. -/
theorem frame_left : Frame (fun s t : Session σ => t.left ≤ s.left) (fun _ => True) where
  refl _ := Nat.le_refl _
  trans first second := Nat.le_trans second first
  mask _ _ := trivial
  passing := left_advance_le
  skipping := left_skipOperand_le
  noting _ _ := Nat.le_refl _
  drawing _ _ := Nat.le_refl _
  setting _ _ _ _ := Nat.le_refl _
  asking _ _ _ := Nat.le_refl _
  sinking kept := kept

theorem mem_of_skips {branch : Branch} {fault : Option LexicalFault}
    {found : Token × List Token} {brackets : List Bracket} {pending : Nat} {skipped : Bool}
    {token : Token} {rest : List Token}
    (skips : Skips branch fault found brackets pending skipped token rest) {other : Token}
    (member : other ∈ found.1 :: found.2) : other ∈ token :: rest ∨ other = .finish := by
  induction skips with
  | halt _ => exact .inl member
  | last _ _ => exact .inr (List.mem_singleton.mp member)
  | more _ _ ih =>
      rcases ih member with before | atEnd
      · exact .inl (List.mem_cons_of_mem _ before)
      · exact .inr atEnd

/-- The tokens ahead were ahead before, the end apart. -/
theorem frame_ahead :
    Frame (fun s t : Session σ => ∀ token ∈ t.ahead, token ∈ s.ahead ∨ token = .finish)
      (fun _ => True) where
  refl _ _ member := .inl member
  trans first second token member := by
    rcases second token member with before | atEnd
    · exact first token before
    · exact .inr atEnd
  mask _ _ := trivial
  passing s token member := by
    -- behind the last token the end comes into view, or a fault keeps everything as it is
    cases others : s.rest with
    | cons next rest =>
        rw [run_advance_cons others] at member
        rw [ahead, others]
        exact .inl (List.mem_cons_of_mem _ member)
    | nil =>
        cases broken : s.fault with
        | none =>
            rw [run_advance_end others broken] at member
            exact .inr (List.mem_singleton.mp member)
        | some fault =>
            rw [run_advance_fault others broken] at member
            exact .inl member
  skipping branch s token member := by
    rw [run_skipOperand] at member
    cases passed : skipBranch branch s.fault [] 0 false s.token s.rest with
    | ok found =>
        rw [passed] at member
        exact mem_of_skips (skips_of_skipBranch passed) member
    | error e =>
        rw [passed] at member
        exact .inl member
  noting _ _ _ member := .inl member
  drawing _ _ _ member := .inl member
  setting _ _ _ _ _ member := .inl member
  asking _ _ _ _ member := .inl member
  sinking kept := kept

abbrev Consumes (m : Eval σ α) : Prop :=
  Keeps (fun s t : Session σ => t.left ≤ s.left) m

theorem Consumes.left_le {m : Eval σ α} (consumes : Consumes m) {s t : Session σ} {a : α}
    (ran : m s = (.ok a, t)) : t.left ≤ s.left := by
  have kept := consumes s
  rw [ran] at kept
  exact kept

/-! ### Levels take at least one token -/

theorem left_pass_lt {s t : Session σ} {u : Unit} (more : s.token ≠ .finish)
    (passed : (discard advance : Eval σ Unit) s = (.ok u, t)) : t.left < s.left := by
  rw [discard_eq_bind, run_bind] at passed
  cases outcome : advance s with
  | mk result next =>
      rw [outcome] at passed
      cases result with
      | error e => cases passed
      | ok token =>
          cases passed
          exact left_advance_lt more outcome

def Strict (m : Eval σ α) : Prop :=
  ∀ s a t, m s = (.ok a, t) → t.left < s.left

theorem Strict.bind {m : Eval σ α} {f : α → Eval σ β} (strict : Strict m)
    (consumes : ∀ a, Consumes (f a)) : Strict (m >>= f) := by
  intro s b u ran
  obtain ⟨a, t, first, second⟩ := ok_of_bind ran
  exact Nat.lt_of_le_of_lt ((consumes a).left_le second) (strict s a t first)

theorem Strict.orMissing {m : Eval σ α} (strict : Strict m) (operand : MissingOperand) :
    Strict (orMissing operand m) := by
  intro s a t ran
  exact strict s a t (ok_of_orMissing ran)

def StrictAt (token : Token) (m : Eval σ α) : Prop :=
  ∀ s a t, s.token = token → m s = (.ok a, t) → t.left < s.left

theorem strict_peek {f : Token → Eval σ α} (strict : ∀ token, StrictAt token (f token)) :
    Strict (peek >>= f) := by
  intro s a t ran
  rw [run_bind_ok (run_peek s)] at ran
  exact strict s.token s a t rfl ran

theorem strictAt_pass {token : Token} {f : Unit → Eval σ α} (more : token ≠ .finish)
    (consumes : Consumes (f ())) : StrictAt token (discard advance >>= f) := by
  intro s a u viewed ran
  obtain ⟨_, t, first, second⟩ := ok_of_bind ran
  rw [← viewed] at more
  exact Nat.lt_of_le_of_lt (consumes.left_le second) (left_pass_lt more first)

theorem strictAt_throw (token : Token) (e : EvalError) : StrictAt token (throw e : Eval σ α) := by
  intro s a t _viewed ran
  cases ran

section Levels

variable {nested : Nested σ} {effects : Bool}

abbrev Consuming (nested : Nested σ) : Prop :=
  Frame.Nesting (fun s t : Session σ => t.left ≤ s.left) (fun _ => True) nested

theorem strict_primary (env : Surroundings σ) (consuming : Consuming nested) (stepWaits : Bool) :
    Strict (primary env nested stepWaits effects) := by
  -- every token that starts an operand is passed over first
  apply strict_peek
  intro token
  split
  · exact strictAt_pass Token.noConfusion (frame_left.closed.keeps_pure _)
  · exact strictAt_pass Token.noConfusion (frame_left.closed.keeps_pure _)
  · exact strictAt_pass Token.noConfusion (frame_left.closed.keeps_pure _)
  · apply strictAt_pass Token.noConfusion
    exact frame_left.closed.keeps_named env consuming trivial _ _
  · apply strictAt_pass Token.noConfusion
    exact frame_left.closed.keeps_wordOperand env (frame_left.hosting env) consuming trivial _ _
  · apply strictAt_pass Token.noConfusion
    apply frame_left.keeps_bind
    · exact frame_left.closed.keeps_orMissing _ (frame_left.closed.keeps_comma consuming trivial)
    · intro inner
      exact frame_left.keeps_bind (frame_left.closed.keeps_expect _ _)
        fun _ => frame_left.closed.keeps_pure _
  · exact strictAt_throw _ _

theorem strict_postfixed (env : Surroundings σ) (consuming : Consuming nested) (stepWaits : Bool) :
    Strict (postfixed env nested stepWaits effects) := by
  apply (strict_primary env consuming stepWaits).bind
  intro operand
  apply frame_left.keeps_bind frame_left.closed.keeps_get
  intro s
  exact frame_left.closed.keeps_postfixTail consuming trivial _ _

theorem strictAt_prefixOp (consuming : Consuming nested) (op : PrefixOp) {token : Token}
    (more : token ≠ .finish) : StrictAt token (prefixOp nested effects op) := by
  apply strictAt_pass more
  apply frame_left.keeps_bind (frame_left.closed.keeps_orMissing _ (consuming _ _ trivial))
  intro operand
  exact frame_left.keeps_bind (frame_left.closed.keeps_ofExcept _)
    fun _ => frame_left.closed.keeps_pure _

theorem strictAt_preStep (env : Surroundings σ) (consuming : Consuming nested) (step : Step)
    {token : Token} (more : token ≠ .finish) :
    StrictAt token (preStep env nested effects step) := by
  apply strictAt_pass more
  apply frame_left.keeps_bind frame_left.closed.keeps_peek
  intro token
  apply frame_left.keeps_bind (frame_left.closed.keeps_stepWaitsFor env token)
  intro stepWaits
  apply frame_left.keeps_bind
  · exact frame_left.closed.keeps_orNoVariable step (consuming _ _ trivial)
  · intro operand
    exact frame_left.closed.keeps_applyPreStep trivial step operand

theorem strict_prefixed (env : Surroundings σ) (consuming : Consuming nested) (stepWaits : Bool) :
    Strict (prefixed env nested stepWaits effects) := by
  apply strict_peek
  intro token
  split
  · exact strictAt_prefixOp consuming _ Token.noConfusion
  · exact strictAt_prefixOp consuming _ Token.noConfusion
  · exact strictAt_prefixOp consuming _ Token.noConfusion
  · exact strictAt_prefixOp consuming _ Token.noConfusion
  · exact strictAt_preStep env consuming _ Token.noConfusion
  · intro s a t _viewed ran
    exact strict_postfixed env consuming stepWaits s a t ran

theorem Strict.deeper {m : Eval σ α} (strict : Strict m) : Strict (deeper m) := by
  intro s a t ran
  obtain ⟨u, inner, rfl⟩ := exists_of_deeper ran
  exact strict { s with depth := s.depth + 1 } a u inner

/-- An operand takes at least one token, however deep it is nested. -/
theorem strict_nest (env : Surroundings σ) (room : Nat) (stepWaits effects : Bool) :
    Strict (nest env room (.prefixed stepWaits) effects) := by
  cases room with
  | zero =>
      intro s a t ran
      cases ran
  | succ room => exact (strict_prefixed env (frame_left.nesting env room) stepWaits).deeper

structure Taking (nested : Nested σ) : Prop where
  consuming : Consuming nested
  operand : ∀ stepWaits effects, Strict (nested (.prefixed stepWaits) effects)

theorem taking_nest (env : Surroundings σ) (room : Nat) : Taking (nest env room) :=
  ⟨frame_left.nesting env room, strict_nest env room⟩

theorem strict_binary (taking : Taking nested) (level : Nat) :
    Strict (binary nested effects level) := by
  induction level with
  | zero => exact taking.operand false effects
  | succ level ih =>
      apply ih.bind
      intro lhs
      apply frame_left.keeps_bind frame_left.closed.keeps_get
      intro s
      exact frame_left.closed.keeps_binaryTail _
        (frame_left.closed.keeps_binary taking.consuming trivial _) _ lhs

theorem strict_conjunction (taking : Taking nested) : Strict (conjunction nested effects) := by
  apply (strict_binary taking _).bind
  intro lhs
  apply frame_left.keeps_bind frame_left.closed.keeps_get
  intro s
  exact frame_left.closed.keeps_connectiveTail _
    (fun _ _ => frame_left.closed.keeps_binary taking.consuming trivial _) trivial _ lhs

theorem strict_disjunction (taking : Taking nested) : Strict (disjunction nested effects) := by
  apply (strict_conjunction taking).bind
  intro lhs
  apply frame_left.keeps_bind frame_left.closed.keeps_get
  intro s
  exact frame_left.closed.keeps_connectiveTail _
    (fun _ _ => frame_left.closed.keeps_conjunction taking.consuming trivial) trivial _ lhs

theorem strict_ternary (taking : Taking nested) : Strict (ternary nested effects) := by
  apply (strict_disjunction taking).bind
  intro condition
  exact frame_left.closed.keeps_conditional taking.consuming trivial condition

theorem strict_assign (taking : Taking nested) : Strict (assign nested effects) := by
  apply (strict_ternary taking).bind
  intro lhs
  exact frame_left.closed.keeps_assignTo taking.consuming trivial lhs

end Levels

end TemplateCalc.Session
