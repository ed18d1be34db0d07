import TemplateCalc.Proofs.Passage.Basic
import TemplateCalc.Proofs.Single

/-!
Where the second branch of a conditional ends.

A branch is evaluated or passed over. An operand that is evaluated takes a row of tokens which passing
over would take as well, whatever brackets are open, because a comma, an assignment and a conditional
can only stand in its brackets. A production above the operands takes such a row too, as long as
nothing divides it: a comma or an assignment outside of all brackets ends a branch that is passed
over, also in front of the colon of a conditional inside of it, where the evaluation goes on.
-/

set_option autoImplicit false

namespace TemplateCalc.Session

variable {σ α β : Type}

/-! ### Steps -/

def Crosses (token : Token) (outer inner : List Bracket) : Prop :=
  ∀ branch pending, judge branch outer pending token = .pass inner pending

/-- If the step succeeds, it has taken tokens that belong to every branch and lead from the one stack
of brackets to the other. -/
def Walks (outer inner : List Bracket) (m : Eval σ α) : Prop :=
  ∀ s a t, m s = (.ok a, t) → ∃ tokens, Passed s tokens t ∧
    ∀ branch pending, Covers branch tokens (outer, pending) (inner, pending)

def WalksAt (token : Token) (outer inner : List Bracket) (m : Eval σ α) : Prop :=
  ∀ s a t, s.token = token → m s = (.ok a, t) → ∃ tokens, Passed s tokens t ∧
    ∀ branch pending, Covers branch tokens (outer, pending) (inner, pending)

section Steps

variable {outer inner between : List Bracket} {token : Token} {m : Eval σ α} {f : α → Eval σ β}

theorem Crosses.more (crosses : Crosses token outer inner) : token ≠ .finish := by
  intro atEnd
  have verdict := crosses .first 0
  rw [atEnd] at verdict
  cases outer <;> cases verdict

theorem Walks.at (walks : Walks outer inner m) (token : Token) : WalksAt token outer inner m :=
  fun s a t _ ran => walks s a t ran

def Still (m : Eval σ α) : Prop :=
  Keeps (fun s t => t.fault = s.fault ∧ t.ahead = s.ahead) m

theorem still_pure (a : α) : Still (pure a : Eval σ α) := fun _ => ⟨rfl, rfl⟩

theorem still_throw (e : EvalError) : Still (throw e : Eval σ α) := fun _ => ⟨rfl, rfl⟩

theorem still_ofExcept (result : Except EvalError α) : Still (ofExcept result : Eval σ α) :=
  fun _ => ⟨rfl, rfl⟩

theorem still_note (event : Event) : Still (note event : Eval σ Unit) := fun _ => ⟨rfl, rfl⟩

theorem still_lookup (env : Surroundings σ) (name : String) (parent : Option Symbol) (index : Nat) :
    Still (lookup env name parent index) := fun _ => ⟨rfl, rfl⟩

theorem still_varValue? (name : String) : Still (varValue? name : Eval σ (Option Value)) :=
  fun _ => ⟨rfl, rfl⟩

theorem still_store (effects : Bool) (name : String) (value : Value) :
    Still (store effects name value : Eval σ Unit) := by
  intro s
  cases effects <;> exact ⟨rfl, rfl⟩

theorem Still.bind (first : Still m) (second : ∀ a, Still (f a)) : Still (m >>= f) := by
  intro s
  have kept := first s
  rw [run_bind]
  cases outcome : m s with
  | mk result t =>
      rw [outcome] at kept
      cases result with
      | error e => exact kept
      | ok a =>
          have kept' := second a t
          exact ⟨kept'.1.trans kept.1, kept'.2.trans kept.2⟩

/-- A step that reads the state and writes it back with the same tokens. -/
theorem still_change (change : Session σ → Session σ) {next : Session σ → Eval σ α}
    (changed : ∀ s, (change s).fault = s.fault ∧ (change s).ahead = s.ahead)
    (rest : ∀ s, Still (next s)) : Still (do let s ← get; set (change s); next s) := by
  intro s
  have kept := rest s (change s)
  exact ⟨kept.1.trans (changed s).1, kept.2.trans (changed s).2⟩

theorem Still.passed (still : Still m) {s t : Session σ} {a : α} (ran : m s = (.ok a, t)) :
    Passed s [] t ∧ t.token = s.token := by
  have kept := still s
  rw [ran] at kept
  exact ⟨.stay kept.1 kept.2, (List.cons.inj kept.2).1⟩

theorem Still.walks (still : Still m) (brackets : List Bracket) : Walks brackets brackets m := by
  intro s a t ran
  exact ⟨[], (still.passed ran).1, fun _ _ => .nil⟩

theorem walks_pure (brackets : List Bracket) (a : α) : Walks brackets brackets (pure a : Eval σ α) :=
  (still_pure a).walks brackets

theorem walks_throw (outer inner : List Bracket) (e : EvalError) :
    Walks outer inner (throw e : Eval σ α) := by
  intro s a t ran
  cases ran

theorem walks_ofExcept (brackets : List Bracket) (result : Except EvalError α) :
    Walks brackets brackets (ofExcept result : Eval σ α) :=
  (still_ofExcept result).walks brackets

theorem Walks.bind (first : Walks outer between m) (second : ∀ a, Walks between inner (f a)) :
    Walks outer inner (m >>= f) := by
  intro s b u ran
  obtain ⟨a, t, ran, ran'⟩ := ok_of_bind ran
  obtain ⟨tokens, passed, covers⟩ := first s a t ran
  obtain ⟨others, passed', covers'⟩ := second a t b u ran'
  exact ⟨_, passed.append passed', fun branch pending => (covers branch pending).append (covers' _ _)⟩

theorem WalksAt.bind (first : WalksAt token outer between m)
    (second : ∀ a, Walks between inner (f a)) : WalksAt token outer inner (m >>= f) := by
  rintro s b u viewed ran
  obtain ⟨a, t, ran, ran'⟩ := ok_of_bind ran
  obtain ⟨tokens, passed, covers⟩ := first s a t viewed ran
  obtain ⟨others, passed', covers'⟩ := second a t b u ran'
  exact ⟨_, passed.append passed', fun branch pending => (covers branch pending).append (covers' _ _)⟩

theorem Walks.rethrow (walks : Walks outer inner m) (change : EvalError → EvalError) :
    Walks outer inner (tryCatch m fun e => throw (change e)) := by
  intro s a t ran
  exact walks s a t (ok_of_rethrow ran)

theorem Walks.orMissing (walks : Walks outer inner m) (operand : MissingOperand) :
    Walks outer inner (orMissing operand m) :=
  walks.rethrow fun e => e.orMissing operand

theorem walks_peek {f : Token → Eval σ α} (walks : ∀ token, WalksAt token outer inner (f token)) :
    Walks outer inner (peek >>= f) := by
  intro s a t ran
  rw [run_bind_ok (run_peek s)] at ran
  exact walks s.token s a t rfl ran

theorem walks_get {f : Session σ → Eval σ α} (walks : ∀ s, Walks outer inner (f s)) :
    Walks outer inner (get >>= f) := by
  intro s a t ran
  rw [run_bind_ok (run_get s)] at ran
  exact walks s s a t ran

/-- The next token comes into view. If the step goes on, the one that was crosses. -/
theorem walks_take {f : Token → Eval σ β}
    (walks : ∀ token, Crosses token outer between ∧ Walks between inner (f token) ∨
      ∀ s b t, f token s ≠ (.ok b, t)) : Walks outer inner (advance >>= f) := by
  intro s b u ran
  obtain ⟨token, t, ran, ran'⟩ := ok_of_bind ran
  obtain rfl := token_of_advance ran
  rcases walks s.token with ⟨crosses, walks⟩ | fails
  · have passed := passed_of_advance crosses.more ran
    obtain ⟨others, passed', covers⟩ := walks t b u ran'
    refine ⟨_, passed.append passed', fun branch pending => ?_⟩
    exact (covers_single (crosses branch pending)).append (covers _ _)
  · exact absurd ran' (fails t b u)

theorem passed_of_pass {s t : Session σ} {u : Unit} (more : s.token ≠ .finish)
    (ran : (discard advance : Eval σ Unit) s = (.ok u, t)) : Passed s [s.token] t := by
  rw [discard_eq_bind] at ran
  obtain ⟨token, t', advanced, ended⟩ := ok_of_bind ran
  cases ended
  exact passed_of_advance more advanced

theorem walksAt_pass {f : Unit → Eval σ β} (crosses : Crosses token outer between)
    (walks : Walks between inner (f ())) : WalksAt token outer inner (discard advance >>= f) := by
  rintro s b u rfl ran
  obtain ⟨_, t, first, second⟩ := ok_of_bind ran
  have passed := passed_of_pass crosses.more first
  obtain ⟨others, passed', covers⟩ := walks t b u second
  refine ⟨_, passed.append passed', fun branch pending => ?_⟩
  exact (covers_single (crosses branch pending)).append (covers _ _)

theorem walks_expect {wanted : Token → Bool} (fault : GrammarFault)
    (crosses : ∀ token, wanted token = true → Crosses token outer inner) :
    Walks outer inner (expect wanted fault : Eval σ Unit) := by
  apply walks_peek
  intro token
  split
  · rename_i fits
    rintro s _ t rfl ran
    have crosses := crosses s.token fits
    exact ⟨_, passed_of_pass crosses.more ran, fun _ _ => covers_single (crosses _ _)⟩
  · exact (walks_throw outer inner _).at token

theorem walks_closeParen (brackets : List Bracket) (fault : GrammarFault) :
    Walks (.paren :: brackets) brackets (expect isCloseParen fault : Eval σ Unit) := by
  apply walks_expect
  intro token fits
  cases token with
  | closeParen => exact fun _ _ => rfl
  | _ => cases fits

theorem walks_closeBracket (brackets : List Bracket) (fault : GrammarFault) :
    Walks (.square :: brackets) brackets (expect isCloseBracket fault : Eval σ Unit) := by
  apply walks_expect
  intro token fits
  cases token with
  | closeBracket => exact fun _ _ => rfl
  | _ => cases fits

end Steps

/-! ### Rows of operands -/

def Quiet (brackets : List Bracket) (tokens : List Token) : Prop :=
  ∀ branch pending, Covers branch tokens (brackets, pending) (brackets, pending)

/-- The brackets in a row are nested properly and no colon lacks its question mark. In front of a
colon no question mark lacks its colon either, unless the row is divided. -/
def Matched (tokens : List Token) (next : Token) : Prop :=
  ∃ waiting, Covers .first tokens ([], 0) ([], waiting) ∧
    (divided [] tokens = false → next = .colon → waiting = 0)

structure Segment (tokens : List Token) (next : Token) : Prop where
  first : ∃ token rest, tokens = token :: rest ∧ token.divides = false
  matched : Matched tokens next

def Segmented (m : Eval σ α) : Prop :=
  ∀ s a t, m s = (.ok a, t) → ∃ tokens, Passed s tokens t ∧ Segment tokens t.token

structure Parsing (nested : Nested σ) : Prop where
  taking : Taking nested
  operand : ∀ stepWaits effects brackets,
    Walks brackets brackets (nested (.prefixed stepWaits) effects)
  segment : ∀ p effects, Segmented (nested p effects)

section Rows

variable {nested : Nested σ} {effects : Bool} {brackets : List Bracket}

theorem walks_binaryTail (level : Nat) {operand : Eval σ Operand}
    (walks : Walks brackets brackets operand) (rounds : List Token) (lhs : Operand) :
    Walks brackets brackets (binaryTail level operand rounds lhs) := by
  induction rounds generalizing lhs with
  | nil => exact walks_pure brackets lhs
  | cons round rounds ih =>
      unfold binaryTail
      apply walks_peek
      intro token
      split
      · split
        · apply walksAt_pass (fun _ _ => rfl)
          apply (walks.orMissing _).bind
          intro rhs
          apply (walks_ofExcept brackets _).bind
          intro value
          exact ih _
        · exact (walks_pure brackets lhs).at _
      · exact (walks_pure brackets lhs).at _

theorem walks_binary (parsing : Parsing nested) (level : Nat) :
    Walks brackets brackets (binary nested effects level) := by
  induction level with
  | zero => exact parsing.operand _ _ _
  | succ level ih =>
      apply ih.bind
      intro lhs
      apply walks_get
      intro s
      exact walks_binaryTail _ ih _ lhs

theorem walks_connectiveTail (c : Connective) {operand : Bool → Eval σ Operand}
    (walks : ∀ effects, Walks brackets brackets (operand effects)) (rounds : List Token)
    (lhs : Operand) : Walks brackets brackets (connectiveTail c operand effects rounds lhs) := by
  induction rounds generalizing lhs with
  | nil => exact walks_pure brackets lhs
  | cons round rounds ih =>
      unfold connectiveTail
      apply walks_peek
      intro token
      split
      · rename_i isConnective
        have crosses : Crosses token brackets brackets := by
          cases token with
          | both | either => exact fun _ _ => rfl
          | _ => cases c <;> cases isConnective
        apply walksAt_pass crosses
        apply ((walks _).orMissing _).bind
        intro rhs
        split
        · exact ih _
        · exact walks_throw _ _ _
      · exact (walks_pure brackets lhs).at _

theorem walks_conjunction (parsing : Parsing nested) :
    Walks brackets brackets (conjunction nested effects) := by
  apply (walks_binary parsing _).bind
  intro lhs
  apply walks_get
  intro s
  exact walks_connectiveTail _ (fun _ => walks_binary parsing _) _ lhs

theorem walks_disjunction (parsing : Parsing nested) :
    Walks brackets brackets (disjunction nested effects) := by
  apply (walks_conjunction parsing).bind
  intro lhs
  apply walks_get
  intro s
  exact walks_connectiveTail _ (fun _ => walks_conjunction parsing) _ lhs

end Rows

/-! ### Rows above the operands -/

section Matched

variable {tokens others front : List Token} {token next : Token}

theorem Quiet.matched (quiet : Quiet [] tokens) : Matched tokens next :=
  ⟨0, quiet .first 0, fun _ _ => rfl⟩

theorem Quiet.first (quiet : Quiet [] tokens) (some : tokens ≠ []) :
    ∃ token rest, tokens = token :: rest ∧ token.divides = false := by
  obtain ⟨token, rest, rfl⟩ := List.exists_cons_of_ne_nil some
  have whole := (quiet .second 0).undivided
  rw [divided, Bool.or_eq_false_iff] at whole
  exact ⟨token, rest, rfl, whole.1⟩

/-- A branch that is passed over is matched up to the token that ends it. -/
theorem matched_of_halt {branch : Branch} {waiting : Nat}
    (covers : Covers branch tokens ([], 0) ([], waiting))
    (stop : judge branch [] waiting next = .halt) : Matched tokens next := by
  refine ⟨waiting, covers.first, ?_⟩
  rintro _ rfl
  rw [judge] at stop
  simp only [List.isEmpty_nil, Bool.not_true, Bool.false_eq_true, if_false] at stop
  split at stop
  · cases stop
  · omega

theorem Matched.divide (first : Matched front token) (divides : token.divides = true)
    (second : Matched tokens next) : Matched (front ++ token :: tokens) next := by
  obtain ⟨waiting, covers, _⟩ := first
  obtain ⟨waiting', covers', _⟩ := second
  have verdict : judge .first [] waiting token = .pass [] waiting := by
    cases token with
    | comma | assign _ => rfl
    | _ => cases divides
  have isDivided : divided [] (front ++ token :: tokens) = true := by
    rw [divided_append covers, divided, divides]
    exact Bool.or_true _
  refine ⟨waiting' + waiting, covers.append ((covers_single verdict).append ?_), ?_⟩
  · have shifted := covers'.shift waiting
    rwa [Nat.zero_add] at shifted
  · intro whole
    rw [isDivided] at whole
    cases whole

theorem Matched.conditional (condition : Quiet [] front) (first : Matched others .colon)
    (second : Matched tokens next) :
    Matched (front ++ ([.question] ++ (others ++ ([.colon] ++ tokens)))) next := by
  obtain ⟨waiting, covers, closed⟩ := first
  obtain ⟨waiting', covers', closed'⟩ := second
  have question : Covers .first [.question] ([], 0) ([], 1) := covers_single rfl
  have inner : Covers .first others ([], 1) ([], waiting + 1) := by
    have shifted := covers.shift 1
    rwa [Nat.zero_add] at shifted
  have colon : Covers .first [.colon] ([], waiting + 1) ([], waiting) := by
    apply covers_single
    simp [judge]
  have outer : Covers .first tokens ([], waiting) ([], waiting' + waiting) := by
    have shifted := covers'.shift waiting
    rwa [Nat.zero_add] at shifted
  have start := condition .first 0
  refine ⟨waiting' + waiting,
    start.append (question.append (inner.append (colon.append outer))), ?_⟩
  intro whole here
  rw [divided_append start, divided_append question, divided_append inner,
    divided_append colon] at whole
  simp only [Bool.or_eq_false_iff] at whole
  rw [closed whole.2.2.1 rfl, closed' whole.2.2.2.2 here]

theorem Segment.behind (segment : Segment front token) (matched : Matched (front ++ tokens) next) :
    Segment (front ++ tokens) next := by
  obtain ⟨first, rest, rfl, plain⟩ := segment.first
  exact ⟨⟨first, rest ++ tokens, rfl, plain⟩, matched⟩

end Matched

section Productions

variable {nested : Nested σ} {effects : Bool} {s t : Session σ} {tokens : List Token} {a : Operand}

theorem Passed.ne_nil (passed : Passed s tokens t) (less : t.left < s.left) : tokens ≠ [] := by
  rintro rfl
  have here : s.ahead = t.ahead := by
    rcases passed.ahead with here | ⟨_, here, _⟩
    · exact here
    · cases here
  obtain ⟨token, rest⟩ := List.cons.inj here
  rw [left, left, token, rest] at less
  exact Nat.lt_irrefl _ less

theorem passed_of_expect {wanted : Token → Bool} {fault : GrammarFault} {u : Unit}
    (ran : expect wanted fault s = (.ok u, t)) (noEnd : wanted .finish = false) :
    wanted s.token = true ∧ Passed s [s.token] t := by
  rw [expect, run_bind_ok (run_peek s)] at ran
  split at ran
  · rename_i fits
    refine ⟨fits, passed_of_pass ?_ ran⟩
    intro atEnd
    rw [atEnd, noEnd] at fits
    cases fits
  · cases ran

theorem token_of_isColon {token : Token} (fits : isColon token = true) : token = .colon := by
  cases token with
  | colon => rfl
  | _ => cases fits

/-- What the two branches of a conditional are, whichever of them is evaluated. -/
theorem branches_of_conditional (parsing : Parsing nested) {condition : Operand}
    (asked : s.token = .question) (ran : conditional nested effects condition s = (.ok a, t)) :
    ∃ first second, Passed s ([.question] ++ (first ++ ([.colon] ++ second))) t ∧
      Matched first .colon ∧ Matched second t.token := by
  rw [conditional, run_bind_ok (run_peek s), asked] at ran
  cases kind : condition.value with
  | bool truth =>
      simp only [kind] at ran
      obtain ⟨_, u, ran₁, ran⟩ := ok_of_bind ran
      have question := passed_of_pass (by rw [asked]; exact Token.noConfusion) ran₁
      rw [asked] at question
      cases truth with
      | true =>
          simp only [if_true] at ran
          obtain ⟨b, v, ran₂, ran⟩ := ok_of_bind ran
          obtain ⟨_, w, ran₃, ran⟩ := ok_of_bind ran
          obtain ⟨_, x, ran₄, ran⟩ := ok_of_bind ran
          cases ran
          obtain ⟨first, passed, segment⟩ :=
            parsing.segment _ _ _ _ _ (ok_of_orMissing ran₂)
          obtain ⟨colon, passed'⟩ := passed_of_expect ran₃ rfl
          have viewed := token_of_isColon colon
          rw [viewed] at segment passed'
          obtain ⟨second, _, passed'', covers, stop⟩ :=
            covers_of_skipOperand (ok_of_orMissing ran₄)
          exact ⟨first, second, question.append (passed.append (passed'.append passed'')),
            segment.matched, matched_of_halt covers stop⟩
      | false =>
          simp only [Bool.false_eq_true, if_false] at ran
          obtain ⟨_, v, ran₂, ran⟩ := ok_of_bind ran
          obtain ⟨_, w, ran₃, ran⟩ := ok_of_bind ran
          obtain ⟨b, x, ran₄, ran⟩ := ok_of_bind ran
          cases ran
          obtain ⟨first, _, passed, covers, stop⟩ := covers_of_skipOperand (ok_of_orMissing ran₂)
          obtain ⟨colon, passed'⟩ := passed_of_expect ran₃ rfl
          have viewed := token_of_isColon colon
          rw [viewed] at stop passed'
          obtain ⟨second, passed'', segment⟩ :=
            parsing.segment _ _ _ _ _ (ok_of_orMissing ran₄)
          exact ⟨first, second, question.append (passed.append (passed'.append passed'')),
            matched_of_halt covers stop, segment.matched⟩
  | _ =>
      simp only [kind] at ran
      cases ran

theorem segmented_ternary (parsing : Parsing nested) : Segmented (ternary nested effects) := by
  intro s a t ran
  rw [ternary] at ran
  obtain ⟨condition, u, ran₁, ran₂⟩ := ok_of_bind ran
  obtain ⟨front, passed, (quiet : Quiet [] front)⟩ := walks_disjunction parsing s condition u ran₁
  have some := passed.ne_nil (strict_disjunction parsing.taking s condition u ran₁)
  have start : Segment front u.token := ⟨quiet.first some, quiet.matched⟩
  cases viewed : u.token with
  | question =>
      obtain ⟨first, second, passed', matched, matched'⟩ :=
        branches_of_conditional parsing viewed ran₂
      exact ⟨_, passed.append passed', start.behind (.conditional quiet matched matched')⟩
  | _ =>
      rw [conditional_stop (by rw [viewed]; exact Token.noConfusion)] at ran₂
      cases ran₂
      exact ⟨front, passed, start⟩

/-- A token that divides, with a row behind it. -/
theorem Segment.divide {divider : Token} {others : List Token} {next : Token}
    (segment : Segment tokens divider) (divides : divider.divides = true)
    (behind : Segment others next) : Segment (tokens ++ ([divider] ++ others)) next :=
  segment.behind (segment.matched.divide divides behind.matched)

/-- What an assignment does behind its right side. -/
theorem still_writing (effects : Bool) (op : Option Arith) (name : String) (old new : Value) :
    Still (do
      let value ← ofExcept (assignedValue op old new)
      if effects then
        note (.assigned name op value)
      store effects name value
      return { value } : Eval σ Operand) := by
  apply (still_ofExcept _).bind
  intro value
  split
  · apply (still_note _).bind
    intro _
    exact (still_store _ _ _).bind fun _ => still_pure _
  · exact (still_store _ _ _).bind fun _ => still_pure _

theorem segmented_assign (parsing : Parsing nested) : Segmented (assign nested effects) := by
  intro s a t ran
  rw [assign] at ran
  obtain ⟨lhs, u, ran₁, ran₂⟩ := ok_of_bind ran
  obtain ⟨front, passed, segment⟩ := segmented_ternary parsing s lhs u ran₁
  cases viewed : u.token with
  | assign op =>
      rw [assignTo, run_bind_ok (run_peek u), viewed] at ran₂
      rw [viewed] at segment
      cases target : lhs.target with
      | none =>
          simp only [target] at ran₂
          cases ran₂
      | some name =>
          simp only [target] at ran₂
          obtain ⟨_, v, ran₃, ran₂⟩ := ok_of_bind ran₂
          obtain ⟨rhs, w, ran₄, ran₂⟩ := ok_of_bind ran₂
          have operator := passed_of_pass (by rw [viewed]; exact Token.noConfusion) ran₃
          rw [viewed] at operator
          obtain ⟨tokens, passed', segment'⟩ := parsing.segment _ _ _ _ _ (ok_of_orMissing ran₄)
          -- storing the value moves no token
          obtain ⟨stays, same⟩ := (still_writing effects op name lhs.value rhs.value).passed ran₂
          rw [← same] at segment'
          refine ⟨_, passed.append (operator.append ?_), segment.divide rfl segment'⟩
          have closed := passed'.append stays
          rwa [List.append_nil] at closed
  | _ =>
      rw [assignTo_stop (by rw [viewed]; rfl)] at ran₂
      cases ran₂
      exact ⟨front, passed, segment⟩

theorem segmented_commaTail {expression : Eval σ Operand} (segmented : Segmented expression)
    (rounds : List Token) (last : Operand) {origin : Session σ} (passed : Passed origin tokens s)
    (segment : Segment tokens s.token) (ran : commaTail expression rounds last s = (.ok a, t)) :
    ∃ others, Passed origin others t ∧ Segment others t.token := by
  induction rounds generalizing s last tokens with
  | nil =>
      cases ran
      exact ⟨tokens, passed, segment⟩
  | cons round rounds ih =>
      cases viewed : s.token with
      | comma =>
          rw [commaTail_step viewed] at ran
          obtain ⟨next, u, ran₁, ran⟩ := ok_of_bind ran
          obtain ⟨_, v, ran₂, ran₃⟩ := ok_of_bind ran₁
          have comma := passed_of_pass (by rw [viewed]; exact Token.noConfusion) ran₂
          rw [viewed] at comma segment
          obtain ⟨others, passed', segment'⟩ := segmented _ _ _ (ok_of_orMissing ran₃)
          exact ih next (passed.append (comma.append passed')) (segment.divide rfl segment') ran
      | _ =>
          rw [commaTail_stop (by rw [viewed]; exact Token.noConfusion)] at ran
          cases ran
          exact ⟨tokens, passed, segment⟩

theorem segmented_comma (parsing : Parsing nested) : Segmented (comma nested effects) := by
  intro s a t ran
  rw [comma] at ran
  obtain ⟨first, u, ran₁, ran₂⟩ := ok_of_bind ran
  obtain ⟨front, passed, segment⟩ := segmented_assign parsing s first u ran₁
  rw [run_bind_ok (run_get u)] at ran₂
  exact segmented_commaTail (segmented_assign parsing) _ first passed segment ran₂

/-- In brackets a row may be divided. -/
theorem Segmented.walks {m : Eval σ Operand} (segmented : Segmented m) (b : Bracket)
    (brackets : List Bracket) : Walks (b :: brackets) (b :: brackets) m := by
  intro s a t ran
  obtain ⟨tokens, passed, segment⟩ := segmented s a t ran
  obtain ⟨waiting, covers, _⟩ := segment.matched
  refine ⟨tokens, passed, fun branch pending => ?_⟩
  exact covers_inside covers.nested passed.finish_not_mem (List.cons_ne_nil b brackets) branch pending

end Productions

end TemplateCalc.Session
