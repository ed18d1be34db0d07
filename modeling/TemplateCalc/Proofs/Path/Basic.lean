import TemplateCalc.Proofs.Branch
import TemplateCalc.Proofs.Tree.Evaluation

/-!
Paths from a symbol to the symbols inside of it.

A path is written as a row of members and elements behind a name. Values and inquiries follow it in
loops of their own. Both loops go on at the same tokens and with the same questions to the host, and
so both are followed here at once; only where they stop they differ.
-/

set_option autoImplicit false

namespace TemplateCalc

structure Literal where
  negative : Bool
  constant : Int64

def Literal.value (l : Literal) : Int64 :=
  if l.negative then -l.constant else l.constant

def Literal.tokens (l : Literal) : List Token :=
  if l.negative then [.operator (.arith .sub), .int l.constant] else [.int l.constant]

inductive Hop where
  | member (name : String)
  | element (index : Literal)

namespace Hop

def mark : Hop → Token
  | member _ => .dot
  | element _ => .openBracket

def behind : Hop → List Token
  | member name => [.word name]
  | element index => index.tokens ++ [.closeBracket]

def tokens (hop : Hop) : List Token :=
  hop.mark :: hop.behind

def room : Hop → Nat
  | member _ => 0
  | element index => index.tokens.length

/-- The symbol that the step leads to. There is none in front of the first element. -/
def next? (host : Host) (parent : Symbol) : Hop → Option Symbol
  | member name => host.resolve name (some parent) 0
  | element index =>
    if index.value < 0 then none else host.resolve "" (some parent) index.value.toInt.toNat

def fault (parent : Value) : Hop → SymbolFault
  | member _ => .noMember
  | element _ => Session.elementFault parent

theorem room_le (hop : Hop) : hop.room ≤ 2 := by
  cases hop with
  | member name => exact Nat.zero_le _
  | element index =>
      rw [room, Literal.tokens]
      split <;> simp

end Hop

def Host.reach (h : Host) (name : String) (hops : List Hop) : Option Symbol := do
  let base ← h.resolve name Option.none 0
  hops.foldlM (Hop.next? h) base

def pathTokens (hops : List Hop) : List Token :=
  hops.flatMap Hop.tokens

namespace Session

/-- The steps lead from the one symbol to the other. At each of them stands a container of the kind
that the step asks for. -/
inductive Leads (host : Host) : Symbol → List Hop → Symbol → Prop where
  | here {symbol : Symbol} : Leads host symbol [] symbol
  | onward {symbol child last : Symbol} {hop : Hop} {hops : List Hop}
      (leads : leadsOn symbol.value hop.mark = true) (found : hop.next? host symbol = some child)
      (others : Leads host child hops last) : Leads host symbol (hop :: hops) last

section Leads

variable {host : Host} {symbol last : Symbol} {hops : List Hop}

theorem Leads.reach (leads : Leads host symbol hops last) {name : String}
    (known : host.resolve name none 0 = some symbol) : host.reach name hops = some last := by
  rw [Host.reach, known, Option.bind_eq_bind, Option.bind_some]
  clear known
  induction leads with
  | here => rfl
  | onward _ found _ ih =>
      rw [List.foldlM_cons, found]
      exact ih

/-- Steps that cannot be taken to the end get stuck at one of them. -/
theorem leads_or_stuck (host : Host) (symbol : Symbol) (hops : List Hop) :
    (∃ last, Leads host symbol hops last) ∨
      ∃ front hop rest last, hops = front ++ hop :: rest ∧ Leads host symbol front last ∧
        (leadsOn last.value hop.mark = true → hop.next? host last = none) := by
  induction hops generalizing symbol with
  | nil => exact .inl ⟨symbol, .here⟩
  | cons hop hops ih =>
      cases found : hop.next? host symbol with
      | none => exact .inr ⟨[], hop, hops, symbol, rfl, .here, fun _ => found⟩
      | some child =>
          cases leads : leadsOn symbol.value hop.mark with
          | false =>
              refine .inr ⟨[], hop, hops, symbol, rfl, .here, fun impossible => ?_⟩
              rw [leads] at impossible
              cases impossible
          | true =>
              rcases ih child with ⟨last, others⟩ | ⟨front, stuck, rest, last, rfl, others, nowhere⟩
              · exact .inl ⟨last, .onward leads found others⟩
              · exact .inr ⟨hop :: front, stuck, rest, last, rfl, .onward leads found others, nowhere⟩

end Leads

/-! ### Steps -/

variable {σ α : Type} {env : Surroundings σ} {room : Nat} {effects : Bool} {s : Session σ}
  {more : List Token}

theorem evaluates_literal (index : Literal) :
    Evaluates env 1 index.tokens fun _ => pure (.int index.value) := by
  rw [Literal.tokens, Literal.value]
  cases index.negative with
  | false => exact evaluates_int index.constant
  | true =>
      exact (evaluates_int index.constant).prefixed .minus

theorem run_index (env : Surroundings σ) (effects : Bool) {index : Literal}
    (enough : index.tokens.length ≤ room) (fault : TypeFault)
    (met : At (.openBracket :: (index.tokens ++ .closeBracket :: more)) s) :
    ∃ t, Session.index (nest env room) effects fault s = (.ok index.value, t) ∧ At more t ∧
      t.vars = s.vars := by
  obtain ⟨t, passed, inside, sameVars⟩ := met.advance
  have ends : Ends commaLevel (.closeBracket :: more) := fun own isOwn => by cases isOwn
  have loosest : Evaluates env commaLevel index.tokens fun _ => pure (.int index.value) :=
    (evaluates_literal index).of_le (Nat.le_refl 1) (by decide) (Nat.le_refl _)
  have inner : Gives (.closeBracket :: more) ((pure (.int index.value) : Meaning Value) t.vars)
      (comma (nest env room) effects t) :=
    loosest.gives (by decide) enough inside ends fun isOwn => by cases isOwn
  rcases inner.orMissing .index with ⟨a, u, meant, ran, behind⟩ | ⟨_, _, impossible, _⟩
  · obtain ⟨v, closing, after, sameVars'⟩ := behind.advance
    obtain ⟨value, vars⟩ := Prod.mk.inj meant
    have closed : expect isCloseBracket .bracketExpected u = (.ok (), v) :=
      run_expect_ok (by rw [behind.token]; rfl) closing
    refine ⟨v, ?_, after, sameVars'.trans (vars.symm.trans sameVars)⟩
    rw [Session.index, run_bind_ok (run_pass_ok passed), run_bind_ok ran, ← Except.ok.inj value]
    simp only
    rw [run_bind_ok closed]
    rfl
  · cases impossible

theorem run_question (env : Surroundings σ) (name : String) (parent : Option Symbol) (index : Nat)
    (s : Session σ) :
    ∃ journal, lookup env name parent index s =
      (.ok (env.host.resolve name parent index), { s with journal := journal }) :=
  ⟨_, rfl⟩

theorem run_member {symbol : Symbol} {name : String} (met : At (.dot :: .word name :: more) s) :
    ∃ t, member env symbol s =
        ((Hop.next? env.host symbol (.member name)).elim (.error (.symbol .noMember)) .ok, t) ∧
      At more t ∧ t.vars = s.vars := by
  obtain ⟨t, passed, inside, sameVars⟩ := met.advance
  obtain ⟨u, passed', behind, sameVars'⟩ := inside.advance
  obtain ⟨journal, asked⟩ := run_question env name (some symbol) 0 u
  refine ⟨{ u with journal := journal }, ?_, ⟨behind.token, behind.rest, behind.readable⟩,
    sameVars'.trans sameVars⟩
  rw [member, run_bind_ok (run_pass_ok passed), run_bind_ok passed']
  simp only
  rw [memberNamed, run_bind_ok asked, Hop.next?]
  cases env.host.resolve name (some symbol) 0 <;> rfl

theorem run_element {symbol : Symbol} {index : Literal} (enough : index.tokens.length ≤ room)
    (met : At (.openBracket :: (index.tokens ++ .closeBracket :: more)) s) :
    ∃ t, element env (nest env room) effects symbol s =
        ((Hop.next? env.host symbol (.element index)).elim
          (.error (.symbol (elementFault symbol.value))) .ok, t) ∧
      At more t ∧ t.vars = s.vars := by
  obtain ⟨t, ran, behind, sameVars⟩ := run_index env effects enough .elementIndex met
  rw [element, run_bind_ok ran, Hop.next?]
  split
  · exact ⟨t, rfl, behind, sameVars⟩
  · obtain ⟨journal, asked⟩ := run_question env "" (some symbol) index.value.toInt.toNat t
    refine ⟨{ t with journal := journal }, ?_, ⟨behind.token, behind.rest, behind.readable⟩, sameVars⟩
    rw [run_bind_ok asked]
    cases env.host.resolve "" (some symbol) index.value.toInt.toNat <;> rfl

/-- A step of a path leads to the symbol that the host gives, or it fails. -/
theorem run_onward (env : Surroundings σ) (effects : Bool) (symbol : Symbol) {hop : Hop}
    (enough : hop.room ≤ room)
    (met : At (hop.tokens ++ more) s) :
    ∃ t, onward env (nest env room) effects symbol hop.mark s =
        ((hop.next? env.host symbol).elim (.error (.symbol (hop.fault symbol.value))) .ok, t) ∧
      At more t ∧ t.vars = s.vars := by
  cases hop with
  | member name => exact run_member met
  | element index =>
      refine run_element enough ?_
      rw [Hop.tokens, List.cons_append, Hop.behind, List.append_assoc] at met
      exact met

/-! ### Loops -/

def Follows (env : Surroundings σ) (nested : Nested σ) (effects : Bool)
    (loop : List Token → Symbol → Eval σ α) : Prop :=
  ∀ {s : Session σ} {symbol : Symbol}, leadsOn symbol.value s.token = true →
    ∀ round rounds, loop (round :: rounds) symbol s =
      (onward env nested effects symbol s.token >>= loop rounds) s

theorem follows_navigate (env : Surroundings σ) (nested : Nested σ) (effects : Bool) :
    Follows env nested effects (navigate env nested effects) :=
  fun leads round rounds => navigate_step leads round rounds

theorem follows_pathFrom (env : Surroundings σ) (nested : Nested σ) (effects : Bool) :
    Follows env nested effects (pathFrom env nested effects) :=
  fun leads round rounds => pathFrom_step leads round rounds

section Loop

variable {loop : List Token → Symbol → Eval σ α} {symbol last : Symbol} {hops : List Hop}
  {rounds : List Token}

/-- A loop follows the steps that can be taken, and goes on behind them. -/
theorem run_loop (follows : Follows env (nest env room) effects loop)
    (leads : Leads env.host symbol hops last) (enough : ∀ hop ∈ hops, hop.room ≤ room)
    (met : At (pathTokens hops ++ more) s)
    (rounded : (pathTokens hops ++ more).length ≤ rounds.length) :
    ∃ t rounds', loop rounds symbol s = loop rounds' last t ∧ At more t ∧ t.vars = s.vars ∧
      more.length ≤ rounds'.length := by
  induction leads generalizing s rounds with
  | here => exact ⟨s, rounds, rfl, met, rfl, rounded⟩
  | @onward symbol child last hop hops leads found others ih =>
      have isPath : pathTokens (hop :: hops) ++ more = hop.tokens ++ (pathTokens hops ++ more) := by
        rw [pathTokens, List.flatMap_cons, List.append_assoc]
        rfl
      rw [isPath] at met rounded
      have viewed : s.token = hop.mark := met.token
      obtain ⟨t, ran, behind, sameVars⟩ :=
        run_onward env effects symbol (enough hop List.mem_cons_self) met
      cases rounds with
      | nil => simp [Hop.tokens] at rounded
      | cons round rounds =>
          have fewer : (pathTokens hops ++ more).length ≤ rounds.length := by
            simp only [Hop.tokens, List.cons_append, List.length_cons, List.length_append] at rounded ⊢
            omega
          obtain ⟨u, rounds', goesOn, after, sameVars', left⟩ :=
            ih (fun hop member => enough hop (List.mem_cons_of_mem _ member)) behind fewer
          refine ⟨u, rounds', ?_, after, sameVars'.trans sameVars, left⟩
          rw [found] at ran
          rw [← viewed] at leads ran
          rw [follows leads, run_bind_ok ran]
          exact goesOn

/-- A loop ends at a step that leads nowhere. -/
theorem run_loop_nowhere (follows : Follows env (nest env room) effects loop) {hop : Hop}
    (leads : leadsOn symbol.value hop.mark = true) (nowhere : hop.next? env.host symbol = none)
    (enough : hop.room ≤ room) (met : At (hop.tokens ++ more) s)
    (rounded : (hop.tokens ++ more).length ≤ rounds.length) :
    ∃ t, loop rounds symbol s = (.error (.symbol (hop.fault symbol.value)), t) := by
  have viewed : s.token = hop.mark := met.token
  obtain ⟨t, ran, _, _⟩ := run_onward env effects symbol enough met
  cases rounds with
  | nil => simp [Hop.tokens] at rounded
  | cons round rounds =>
      rw [nowhere] at ran
      rw [← viewed] at leads ran
      exact ⟨t, by rw [follows leads, run_bind_error ran]⟩

end Loop

/-! ### Names of symbols -/

section Names

variable {nested : Nested σ} {stepWaits : Bool} {name : String} {symbol last : Symbol}
  {hops : List Hop}

theorem run_varValue? (name : String) (s : Session σ) :
    (varValue? name : Eval σ (Option Value)) s = (.ok (s.vars.get? name), s) := rfl

theorem named_symbol (unbound : s.vars.get? name = none)
    (known : env.host.resolve name none 0 = some symbol) :
    ∃ journal, named env nested stepWaits effects name s =
      (do
        let value ← navigate env nested effects s.ahead symbol
        return ({ value } : Operand) : Eval σ Operand) { s with journal := journal } := by
  obtain ⟨journal, asked⟩ := run_question env name none 0 s
  refine ⟨journal, ?_⟩
  rw [named, run_bind_ok (run_varValue? name s), unbound]
  simp only
  rw [run_bind_ok asked, known]
  simp only
  rw [run_bind_ok (run_get _)]
  rfl

theorem subject_symbol (unbound : s.vars.get? name = none)
    (known : env.host.resolve name none 0 = some symbol) :
    ∃ journal, subject env nested effects name s =
      (do
        let found ← pathFrom env nested effects s.ahead symbol
        return Subject.symbol found : Eval σ Subject) { s with journal := journal } := by
  obtain ⟨journal, asked⟩ := run_question env name none 0 s
  refine ⟨journal, ?_⟩
  rw [subject, run_bind_ok (run_varValue? name s), unbound]
  simp only
  rw [run_bind_ok asked, known]
  simp only
  rw [run_bind_ok (run_get _)]
  rfl

/-- The end of a path stops both loops. -/
theorem leadsOn_eq_false {token : Token} (noPoint : token ≠ .dot) (noIndex : token ≠ .openBracket)
    (value : Value) : leadsOn value token = false := by
  rw [Bool.eq_false_iff]
  intro leads
  rcases token_of_leadsOn leads with viewed | viewed
  · exact noPoint viewed
  · exact noIndex viewed

theorem run_scalar {value : Value} (single : value.isContainer = false) (s : Session σ) :
    scalar value s = (.ok value, s) := by
  cases value with
  | struct | array | blob => cases single
  | _ => rfl

end Names

/-! ### Whole texts -/

section Whole

variable {a : Operand} {t : Session σ} {e : EvalError}

/-- An operand that is all there is, and the state behind it. -/
theorem whole_eq_of_postfixed (starts : startsPrimary s.token = true)
    (ran : postfixed env (nest env room) false effects { s with depth := s.depth + 1 } = (.ok a, t))
    (ends : t.token = .finish) :
    whole env (room + 1) effects s = (.ok a.value, { t with depth := t.depth - 1 }) := by
  have operand := (prefixed_of_primary (s := { s with depth := s.depth + 1 }) starts).trans ran
  have deep : nest env (room + 1) (.prefixed false) effects s =
      (.ok a, { t with depth := t.depth - 1 }) := run_deeper_ok operand
  have alone : comma (nest env (room + 1)) effects s = (.ok a, { t with depth := t.depth - 1 }) :=
    comma_of_ternary (ternary_single deep (by simp [ends, joins]) (by simp [ends, goesFurther]))
      (by simp [ends, goesFurther])
  exact whole_of_comma env alone ends

theorem whole_of_postfixed (starts : startsPrimary s.token = true)
    (ran : postfixed env (nest env room) false effects { s with depth := s.depth + 1 } = (.ok a, t))
    (ends : t.token = .finish) : (whole env (room + 1) effects s).1 = .ok a.value := by
  rw [whole_eq_of_postfixed starts ran ends]

theorem whole_of_postfixed_error (starts : startsPrimary s.token = true)
    (failed : postfixed env (nest env room) false effects { s with depth := s.depth + 1 } =
      (.error e, t)) (found : e ≠ .notImplemented) :
    (whole env (room + 1) effects s).1 = .error e := by
  have operand := (prefixed_of_primary (s := { s with depth := s.depth + 1 }) starts).trans failed
  have deep : nest env (room + 1) (.prefixed false) effects s =
      (.error e, { t with depth := t.depth - 1 }) := run_deeper_error operand
  rw [whole_of_comma_error env (comma_of_ternary_error (ternary_error deep)) found]

/-- An operand without operators that is all there is. -/
theorem whole_of_primary {result : Except EvalError Value} (settled : Settled result)
    (starts : startsPrimary s.token = true)
    (ran : primary env (nest env room) false effects { s with depth := s.depth + 1 } =
      (result.map fun value => { value }, t)) (ends : t.token = .finish) :
    (whole env (room + 1) effects s).1 = result := by
  cases result with
  | ok value =>
      apply whole_of_postfixed (a := { value }) starts ?_ ends
      rw [postfixed, run_bind_ok ran, run_bind_ok (run_get t)]
      apply postfixTail_stop
      rw [ends]
      rfl
  | error e => exact whole_of_postfixed_error starts (run_bind_error ran) (settled e rfl)

end Whole

end Session

end TemplateCalc
