import TemplateCalc.Proofs.Cursor.Constants
import TemplateCalc.Proofs.Cursor.Numerals
import TemplateCalc.Proofs.Reading

/-!
Progress of the reader.

Every call ends like one of the scanner, so it ends inside the text; and since the scanner leaves less
of the text behind a token, the position behind it is further on. A text is therefore read with at most
as many tokens as it has characters.
-/

set_option autoImplicit false

namespace TemplateCalc.Cursor

open Scan (Rules)

variable {source cs : List Char}

/-! ### Calls -/

theorem agrees_tokenFrom {position : Nat} {c : Char} (stands : Stands source position (c :: cs))
    (rules : Rules) (afterOperand : Bool) :
    Agrees source (tokenFrom source rules afterOperand c position)
      (Scan.tokenFrom rules afterOperand c cs) := by
  have name := stands.name
  rw [tokenFrom, Scan.tokenFrom, stands.tail.holds, stands.wordIsNumber?]
  split
  · exact agrees_number stands rules
  · split
    · rw [name.text]
      by_cases large : rules.radix > 10
      · rw [if_pos large, decide_eq_true large, Bool.true_and]
        cases Scan.wordIsNumber rules.radix (c :: cs) with
        | true => exact agrees_number stands rules
        | false => exact .token name.stands
      · rw [if_neg large, decide_eq_false large, Bool.false_and]
        exact .token name.stands
    · exact follows_mark c (position + 1) cs stands.tail

theorem agrees_next (state : State) (stands : Stands source state.position cs) (rules : Rules) :
    Agrees source (next source rules state) (Scan.next rules state.afterOperand cs) := by
  have behind := stands.skip Text.isBlank
  have same : cs.dropWhile Text.isBlank = Text.skipBlanks cs := rfl
  rw [next, Scan.next, behind.head?, same]
  rw [same] at behind
  cases left : Text.skipBlanks cs with
  | nil =>
      rw [left] at behind
      exact .token behind
  | cons c rest =>
      rw [left] at behind
      exact agrees_tokenFrom behind rules state.afterOperand

/-- At the end every call finds the end again, and nothing moves. -/
def AtEnd (source : List Char) (state : State) : Prop :=
  ∀ (calls : List Rules) (rules : Rules),
    next source rules (stateBehind source calls state) = .token .finish state.position ∧
      (stateBehind source calls state).position = state.position

inductive Progress (source : List Char) (state : State) : Outcome → Prop where
  | finish (blank : Text.skipBlanks (source.drop state.position) = [])
      (atEnd : AtEnd source (state.behind (.token .finish source.length))) :
      Progress source state (.token .finish source.length)
  | token {token : Token} {position : Nat} (isToken : token ≠ .finish)
      (more : Text.skipBlanks (source.drop state.position) ≠ [])
      (further : state.position < position) (inside : position ≤ source.length) :
      Progress source state (.token token position)
  | fault {fault : LexicalFault} {position : Nat}
      (more : Text.skipBlanks (source.drop state.position) ≠ [])
      (inside : position ≤ source.length) : Progress source state (.fault fault position)

theorem next_at_end (rules : Rules) (afterOperand : Bool) :
    next source rules ⟨source.length, afterOperand⟩ = .token .finish source.length := by
  have last : Stands source source.length [] := ⟨Nat.le_refl _, List.drop_length⟩
  have agrees : Agrees source _ (.ok (.finish, [])) :=
    agrees_next ⟨source.length, afterOperand⟩ last rules
  obtain ⟨position, ends, stands⟩ := agrees.eq_token
  rw [ends, stands.eq_length]

theorem atEnd_length (afterOperand : Bool) : AtEnd source ⟨source.length, afterOperand⟩ := by
  intro calls rules
  induction calls generalizing afterOperand with
  | nil => exact ⟨next_at_end rules afterOperand, rfl⟩
  | cons call calls induction =>
      rw [stateBehind, List.foldl_cons, step, next_at_end call afterOperand]
      exact induction false

theorem progress_next {state : State} (inside : state.position ≤ source.length) (rules : Rules) :
    Progress source state (next source rules state) := by
  have start := stands_drop inside
  have agrees := agrees_next state start rules
  have bound := Scan.skipBlanks_length_le (source.drop state.position)
  have length := start.length
  rw [Scan.next] at agrees
  cases left : Text.skipBlanks (source.drop state.position) with
  | nil =>
      rw [left] at agrees
      obtain ⟨position, ends, stands⟩ := agrees.eq_token
      rw [ends, stands.eq_length]
      exact .finish left (atEnd_length false)
  | cons c rest =>
      have more : Text.skipBlanks (source.drop state.position) ≠ [] := by
        rw [left]
        exact List.cons_ne_nil c rest
      rw [left] at agrees bound
      simp only at agrees
      cases read : Scan.tokenFrom rules state.afterOperand c rest with
      | error fault =>
          rw [read] at agrees
          obtain ⟨position, ends, inside⟩ := agrees.eq_fault
          rw [ends]
          exact .fault more inside
      | ok found =>
          obtain ⟨token, behind⟩ := found
          rw [read] at agrees
          obtain ⟨position, ends, stands⟩ := agrees.eq_token
          have shorter := Scan.tokenFrom_length_lt read
          have length' := stands.length
          rw [ends]
          exact .token (Scan.tokenFrom_ne_finish read) more (by omega) stands.inside

theorem Progress.inside {state : State} {outcome : Outcome}
    (progress : Progress source state outcome) :
    (state.behind outcome).position ≤ source.length := by
  cases progress with
  | finish => exact Nat.le_refl _
  | token _ _ _ inside => exact inside
  | fault _ inside => exact inside

theorem stateBehind_inside {state : State} (inside : state.position ≤ source.length)
    (calls : List Rules) : (stateBehind source calls state).position ≤ source.length := by
  induction calls generalizing state with
  | nil => exact inside
  | cons call calls induction => exact induction (progress_next inside call).inside

/-! ### Whole texts -/

/-- What the scanner reads is read by positions, with no more tokens than characters. -/
theorem tokens_of_reads {rules : Rules} {afterOperand : Bool} {tokens : List Token}
    {fault : Option LexicalFault} (reads : Scan.Reads rules afterOperand cs tokens fault)
    {position : Nat} (stands : Stands source position cs) :
    Tokens source rules ⟨position, afterOperand⟩ tokens fault ∧ tokens.length ≤ cs.length := by
  induction reads generalizing position with
  | @finish afterOperand cs blank =>
      have agrees := agrees_next ⟨position, afterOperand⟩ stands rules
      rw [Scan.next, blank] at agrees
      obtain ⟨stop, ends, _⟩ := agrees.eq_token
      exact ⟨.finish ends, Nat.zero_le _⟩
  | @fault afterOperand cs rest c fault more fails =>
      have agrees := agrees_next ⟨position, afterOperand⟩ stands rules
      simp only [Scan.next, more, fails] at agrees
      obtain ⟨stop, ends, _⟩ := agrees.eq_fault
      exact ⟨.fault ends, Nat.zero_le _⟩
  | @token afterOperand cs rest behind c token tokens fault more read others induction =>
      have agrees := agrees_next ⟨position, afterOperand⟩ stands rules
      have bound := Scan.skipBlanks_length_le cs
      have shorter := Scan.tokenFrom_length_lt read
      simp only [Scan.next, more, read] at agrees
      rw [more] at bound
      obtain ⟨stop, ends, stands'⟩ := agrees.eq_token
      obtain ⟨readOthers, short⟩ := induction stands'
      refine ⟨.token ends (Scan.tokenFrom_ne_finish read) readOthers, ?_⟩
      rw [List.length_cons]
      omega

/-- Whatever calls came before, the reader stands in the text; it never ends outside, a token takes it
further on, and at the end it stays. Up to its end the text is read with at most as many tokens as
characters are left, and in every call the reader does what the scanner does. -/
theorem reading_makes_progress (text : String) (calls : List Rules) (rules : Rules) :
    let source := text.toList
    let state := stateBehind source calls ⟨0, false⟩
    let left := source.drop state.position
    state.position ≤ source.length ∧
      Progress source state (next source rules state) ∧
      Agrees source (next source rules state) (Scan.next rules state.afterOperand left) ∧
      ∃ tokens fault, Tokens source rules state tokens fault ∧ tokens.length ≤ left.length ∧
        Scan.readTokens rules (left.length + 1) state.afterOperand left = ⟨tokens, fault⟩ := by
  intro source state left
  have inside : state.position ≤ source.length := stateBehind_inside (Nat.zero_le _) calls
  have stands := stands_drop inside
  have reads : Scan.Reads rules state.afterOperand left _ _ :=
    Scan.readTokens_reads (Nat.lt_succ_self left.length)
  obtain ⟨tokens, short⟩ := tokens_of_reads reads stands
  exact ⟨inside, progress_next inside rules, agrees_next state stands rules, _, _, tokens, short, rfl⟩

end TemplateCalc.Cursor
