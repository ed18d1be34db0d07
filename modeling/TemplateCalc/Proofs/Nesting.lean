import TemplateCalc.Proofs.Steps

/-!
Brackets that are nested properly.

The open brackets behind a token are found with a stack. Tokens whose brackets are nested properly
leave it as it was. A branch that is passed over follows the same stack, as long as a bracket is
open.
-/

set_option autoImplicit false

namespace TemplateCalc.Session

def closeInnermost (kind : Bracket) : List Bracket → Option (List Bracket)
  | [] => none
  | b :: brackets => if b = kind then some brackets else none

/-- The brackets that are open behind a token, innermost first; `none` if it closes a bracket that is
not the innermost one. -/
def bracketsBehind (brackets : List Bracket) : Token → Option (List Bracket)
  | .openParen => some (.paren :: brackets)
  | .openBracket => some (.square :: brackets)
  | .closeParen => closeInnermost .paren brackets
  | .closeBracket => closeInnermost .square brackets
  | _ => some brackets

def wellNested (tokens : List Token) : Bool :=
  tokens.foldlM bracketsBehind [] == some []

inductive Closes : List Bracket → List Token → Prop where
  | last {brackets : List Bracket} {token : Token} (isOpen : brackets ≠ [])
      (closed : bracketsBehind brackets token = some []) : Closes brackets [token]
  | more {brackets behind : List Bracket} {token : Token} {tokens : List Token}
      (moved : bracketsBehind brackets token = some behind) (isOpen : behind ≠ [])
      (others : Closes behind tokens) : Closes brackets (token :: tokens)

variable {brackets behind outer : List Bracket} {token : Token} {tokens : List Token}

theorem closeInnermost_append {kind : Bracket}
    (closed : closeInnermost kind brackets = some behind) (outer : List Bracket) :
    closeInnermost kind (brackets ++ outer) = some (behind ++ outer) := by
  cases brackets with
  | nil => cases closed
  | cons b brackets =>
      simp only [List.cons_append, closeInnermost] at closed ⊢
      split at closed
      · rename_i fits
        rw [if_pos fits]
        cases closed
        rfl
      · cases closed

theorem bracketsBehind_append (moved : bracketsBehind brackets token = some behind)
    (outer : List Bracket) : bracketsBehind (brackets ++ outer) token = some (behind ++ outer) := by
  cases token with
  | closeParen | closeBracket => exact closeInnermost_append moved outer
  | _ =>
      cases moved
      rfl

theorem closes_of_foldlM (nested : tokens.foldlM bracketsBehind brackets = some []) :
    Closes (brackets ++ [.paren]) (tokens ++ [.closeParen]) := by
  induction tokens generalizing brackets with
  | nil =>
      cases nested
      exact .last (List.cons_ne_nil _ _) rfl
  | cons token tokens ih =>
      rw [List.foldlM_cons] at nested
      obtain ⟨behind, moved, others⟩ := Option.bind_eq_some_iff.1 nested
      refine .more (bracketsBehind_append moved _) ?_ (ih others)
      simp

theorem closes_of_wellNested (nested : wellNested tokens = true) :
    Closes [.paren] (tokens ++ [.closeParen]) :=
  closes_of_foldlM (eq_of_beq nested)

theorem Closes.ne_nil (closes : Closes brackets tokens) : tokens ≠ [] := by
  cases closes <;> exact List.cons_ne_nil _ _

/-- Behind a token that leaves brackets open there are others that close them. -/
theorem Closes.tail (closes : Closes brackets (token :: tokens))
    (moved : bracketsBehind brackets token = some behind) (isOpen : behind ≠ []) :
    Closes behind tokens := by
  cases closes with
  | last _ closed =>
      rw [moved] at closed
      cases closed
      exact absurd rfl isOpen
  | more moved' _ others =>
      rw [moved] at moved'
      cases moved'
      exact others

theorem Closes.tail_eq_nil (closes : Closes brackets (token :: tokens))
    (closed : bracketsBehind brackets token = some []) : tokens = [] := by
  cases closes with
  | last _ _ => rfl
  | more moved isOpen _ =>
      rw [closed] at moved
      cases moved
      exact absurd rfl isOpen

/-! ### Branches that are passed over -/

section Skipping

variable {branch : Branch} {fault : Option LexicalFault} {pending waiting : Nat} {skipped : Bool}

theorem closeInnermost_of_pass {kind : Bracket}
    (verdict : judgeClosing kind pending brackets = .pass behind waiting) :
    closeInnermost kind brackets = some behind := by
  cases brackets with
  | nil => cases verdict
  | cons b brackets =>
      rw [judgeClosing] at verdict
      rw [closeInnermost]
      split at verdict
      · rename_i fits
        rw [if_pos fits]
        cases verdict
        rfl
      · cases verdict

theorem bracketsBehind_of_pass
    (verdict : judge branch brackets pending token = .pass behind waiting) :
    bracketsBehind brackets token = some behind := by
  cases token with
  | closeParen | closeBracket => exact closeInnermost_of_pass verdict
  | finish => cases brackets <;> cases verdict
  | colon =>
      rw [judge] at verdict
      split at verdict
      · cases verdict
        rfl
      · split at verdict <;> cases verdict
        rfl
  | comma | assign _ =>
      rw [judge] at verdict
      split at verdict <;> cases verdict
      rfl
  | _ =>
      cases verdict
      rfl

/-- Inside of brackets every token belongs to the branch. -/
theorem judge_inside (isOpen : brackets ≠ []) (more : token ≠ .finish)
    (moved : bracketsBehind brackets token = some behind) :
    judge branch brackets pending token = .pass behind pending := by
  obtain ⟨b, brackets, rfl⟩ := List.exists_cons_of_ne_nil isOpen
  cases token with
  | finish => exact absurd rfl more
  | closeParen | closeBracket =>
      simp only [bracketsBehind, closeInnermost] at moved
      simp only [judge, judgeClosing]
      split at moved
      · rename_i fits
        rw [if_pos fits]
        cases moved
        rfl
      · cases moved
  | _ =>
      cases moved
      rfl

def skipOn (branch : Branch) (pending : Nat) : List Token → Except EvalError (Token × List Token)
  | [] => .ok (.finish, [])
  | next :: rest => skipBranch branch none [] pending true next rest

/-- A row of tokens in brackets is passed over as a whole. -/
theorem skipBranch_closes (closes : Closes brackets (token :: tokens)) (isOpen : brackets ≠ [])
    (noEnd : .finish ∉ token :: tokens) (others : List Token) :
    skipBranch branch none brackets pending skipped token (tokens ++ others) =
      skipOn branch pending others := by
  induction tokens generalizing brackets token skipped with
  | nil =>
      have more : token ≠ .finish := fun atEnd => noEnd (atEnd ▸ List.mem_cons_self)
      cases closes with
      | last _ closed =>
          have verdict : judge branch brackets pending token = .pass [] pending :=
            judge_inside isOpen more closed
          cases others with
          | nil =>
              rw [List.nil_append, skipBranch_pass_nil verdict]
              rfl
          | cons next rest =>
              rw [List.nil_append, skipBranch_pass_cons verdict]
              rfl
      | more _ _ others => exact absurd rfl others.ne_nil
  | cons second tokens ih =>
      have more : token ≠ .finish := fun atEnd => noEnd (atEnd ▸ List.mem_cons_self)
      have noEnd' : .finish ∉ second :: tokens := fun member => noEnd (List.mem_cons_of_mem _ member)
      cases closes with
      | more moved isOpen' others =>
          rw [List.cons_append, skipBranch_pass_cons (judge_inside isOpen more moved)]
          exact ih others isOpen' noEnd'

theorem brackets_of_halt (verdict : judge branch brackets pending token = .halt) :
    brackets = [] := by
  cases brackets with
  | nil => rfl
  | cons b brackets =>
      cases token with
      | closeParen | closeBracket =>
          simp only [judge, judgeClosing] at verdict
          split at verdict <;> cases verdict
      | _ => cases verdict

/-- A branch inside of open brackets ends before they are closed, whatever follows behind them. -/
theorem skipBranch_enclosed {brackets : List Bracket} {pending : Nat} {skipped : Bool}
    {token : Token} {tokens : List Token} (closes : Closes (brackets ++ outer) (token :: tokens))
    (isOpen : outer ≠ []) (others : List Token) :
    skipBranch branch none brackets pending skipped token (tokens ++ others) =
        (skipBranch branch none brackets pending skipped token tokens).map
          (fun found => (found.1, found.2 ++ others)) ∧
      ∀ found, skipBranch branch none brackets pending skipped token tokens = .ok found →
        Closes outer (found.1 :: found.2) := by
  cases verdict : judge branch brackets pending token with
  | halt =>
      obtain rfl := brackets_of_halt verdict
      rw [skipBranch_halt verdict, skipBranch_halt verdict]
      cases skipped with
      | false => exact ⟨rfl, fun found impossible => nomatch impossible⟩
      | true =>
          refine ⟨rfl, ?_⟩
          rintro found ⟨⟩
          exact closes
  | refuse b =>
      rw [skipBranch_refuse verdict, skipBranch_refuse verdict]
      exact ⟨rfl, fun found impossible => nomatch impossible⟩
  | pass behind waiting =>
      have moved := bracketsBehind_append (bracketsBehind_of_pass verdict) outer
      have tail := closes.tail moved (List.append_ne_nil_of_right_ne_nil _ isOpen)
      cases tokens with
      | nil => exact absurd rfl tail.ne_nil
      | cons second tokens =>
          rw [List.cons_append, skipBranch_pass_cons verdict, skipBranch_pass_cons verdict]
          exact skipBranch_enclosed tail isOpen others
termination_by tokens

end Skipping

end TemplateCalc.Session
