import TemplateCalc.Proofs.Scanning

/-!
How whole texts are read.

`Reads` says which tokens a text holds, one token after the other and without a bound on their
number. `scan` finds exactly these. The tokens of a text that is cut at a character which ends tokens
are those in front of the cut, followed by those behind it.
-/

set_option autoImplicit false

namespace TemplateCalc.Scan

/-- The tokens of a text in front of its end or its first fault. The flag says whether an operand
stands in front of it. -/
inductive Reads (rules : Rules) : Bool → List Char → List Token → Option LexicalFault → Prop where
  | finish {afterOperand : Bool} {cs : List Char} (blank : Text.skipBlanks cs = []) :
      Reads rules afterOperand cs [] none
  | fault {afterOperand : Bool} {cs rest : List Char} {c : Char} {fault : LexicalFault}
      (more : Text.skipBlanks cs = c :: rest)
      (fails : tokenFrom rules afterOperand c rest = .error fault) :
      Reads rules afterOperand cs [] (some fault)
  | token {afterOperand : Bool} {cs rest behind : List Char} {c : Char} {token : Token}
      {tokens : List Token} {fault : Option LexicalFault}
      (more : Text.skipBlanks cs = c :: rest)
      (read : tokenFrom rules afterOperand c rest = .ok (token, behind))
      (others : Reads rules token.endsOperand behind tokens fault) :
      Reads rules afterOperand cs (token :: tokens) fault

section Reads

variable {rules : Rules} {afterOperand : Bool} {cs : List Char} {tokens : List Token}
  {fault : Option LexicalFault}

theorem skipBlanks_length_le (cs : List Char) : (Text.skipBlanks cs).length ≤ cs.length :=
  (List.dropWhile_sublist Text.isBlank).length_le

theorem readTokens_reads {fuel : Nat} (enough : cs.length < fuel) :
    Reads rules afterOperand cs (readTokens rules fuel afterOperand cs).tokens
      (readTokens rules fuel afterOperand cs).fault := by
  induction fuel generalizing cs afterOperand with
  | zero => exact absurd enough (Nat.not_lt_zero _)
  | succ fuel ih =>
      cases more : Text.skipBlanks cs with
      | nil =>
          simp only [readTokens, next, more]
          exact .finish more
      | cons c rest =>
          cases read : tokenFrom rules afterOperand c rest with
          | error fault =>
              simp only [readTokens, next, more, read]
              exact .fault more read
          | ok found =>
              obtain ⟨token, behind⟩ := found
              -- a token takes at least one character, so the fuel suffices for the rest
              have shorter := tokenFrom_length_lt read
              have bound := skipBlanks_length_le cs
              rw [more] at bound
              have others := @ih token.endsOperand behind (by omega)
              have goesOn : readTokens rules (fuel + 1) afterOperand cs =
                  ⟨token :: (readTokens rules fuel token.endsOperand behind).tokens,
                    (readTokens rules fuel token.endsOperand behind).fault⟩ := by
                simp only [readTokens, next, more, read]
                split
                · rename_i impossible
                  cases impossible
                · rename_i impossible
                  cases impossible
                  exact absurd rfl (tokenFrom_ne_finish read)
                · rename_i found
                  cases found
                  rfl
              rw [goesOn]
              exact .token more read others

theorem Reads.unique {tokens' : List Token} {fault' : Option LexicalFault}
    (reads : Reads rules afterOperand cs tokens fault)
    (reads' : Reads rules afterOperand cs tokens' fault') : tokens = tokens' ∧ fault = fault' := by
  induction reads generalizing tokens' fault' with
  | finish blank =>
      cases reads' with
      | finish _ => exact ⟨rfl, rfl⟩
      | fault more _ | token more _ _ =>
          rw [blank] at more
          cases more
  | fault more fails =>
      cases reads' with
      | finish blank =>
          rw [more] at blank
          cases blank
      | fault more' fails' =>
          rw [more] at more'
          cases more'
          rw [fails] at fails'
          cases fails'
          exact ⟨rfl, rfl⟩
      | token more' read' _ =>
          rw [more] at more'
          cases more'
          rw [fails] at read'
          cases read'
  | token more read others ih =>
      cases reads' with
      | finish blank =>
          rw [more] at blank
          cases blank
      | fault more' fails' =>
          rw [more] at more'
          cases more'
          rw [read] at fails'
          cases fails'
      | token more' read' others' =>
          rw [more] at more'
          cases more'
          rw [read] at read'
          cases read'
          obtain ⟨same, sameFault⟩ := ih others'
          exact ⟨by rw [same], sameFault⟩

theorem scan_reads (rules : Rules) (text : String) :
    Reads rules false text.toList (scan rules text).tokens (scan rules text).fault :=
  readTokens_reads (Nat.lt_succ_self _)

theorem scan_of_reads {text : String} (reads : Reads rules false text.toList tokens fault) :
    scan rules text = ⟨tokens, fault⟩ := by
  obtain ⟨same, sameFault⟩ := (scan_reads rules text).unique reads
  rw [← same, ← sameFault]

theorem Reads.finish_not_mem (reads : Reads rules afterOperand cs tokens fault) :
    Token.finish ∉ tokens := by
  induction reads with
  | finish | fault => exact List.not_mem_nil
  | token more read others ih =>
      rw [List.mem_cons]
      rintro (isFinish | member)
      · exact tokenFrom_ne_finish read isFinish.symm
      · exact ih member

/-! ### Cuts -/

def behindOperand (afterOperand : Bool) (tokens : List Token) : Bool :=
  tokens.foldl (fun _ token => token.endsOperand) afterOperand

theorem skipBlanks_append_of_nil (blank : Text.skipBlanks cs = []) (more : List Char) :
    Text.skipBlanks (cs ++ more) = Text.skipBlanks more := by
  induction cs with
  | nil => rfl
  | cons c cs ih =>
      simp only [Text.skipBlanks, List.cons_append, List.dropWhile_cons] at blank ih ⊢
      split at blank
      · rename_i isBlank
        rw [if_pos isBlank]
        exact ih blank
      · cases blank

theorem skipBlanks_append_of_cons {c : Char} {rest : List Char}
    (found : Text.skipBlanks cs = c :: rest) (more : List Char) :
    Text.skipBlanks (cs ++ more) = c :: (rest ++ more) := by
  induction cs with
  | nil => cases found
  | cons first cs ih =>
      simp only [Text.skipBlanks, List.cons_append, List.dropWhile_cons] at found ih ⊢
      split at found
      · rename_i isBlank
        rw [if_pos isBlank]
        exact ih found
      · rename_i isBlank
        rw [if_neg isBlank]
        cases found
        rfl

/-- Blanks in front of a text do not count. -/
theorem Reads.of_blanks {blanks : List Char} (blank : Text.skipBlanks blanks = [])
    (reads : Reads rules afterOperand cs tokens fault) :
    Reads rules afterOperand (blanks ++ cs) tokens fault := by
  have same := skipBlanks_append_of_nil blank cs
  cases reads with
  | finish blank => exact .finish (same.trans blank)
  | fault more fails => exact .fault (same.trans more) fails
  | token more read others => exact .token (same.trans more) read others

theorem Reads.space (reads : Reads rules afterOperand cs tokens fault) :
    Reads rules afterOperand (' ' :: cs) tokens fault := by
  have blank : Text.skipBlanks [' '] = [] := rfl
  exact reads.of_blanks blank

/-- A text is read up to a character that ends tokens as if it ended there. Only where nothing follows
this character digits may be divided. -/
theorem Reads.cut {d : Char} (ends : endsToken d = true) {more : List Char}
    (cut : rules.separator = none ∨ more = []) (reads : Reads rules afterOperand cs tokens none)
    {others : List Token}
    (behind : Reads rules (behindOperand afterOperand tokens) (d :: more) others fault) :
    Reads rules afterOperand (cs ++ d :: more) (tokens ++ others) fault := by
  generalize isNone : (none : Option LexicalFault) = nothing at reads
  induction reads with
  | finish blank => exact behind.of_blanks blank
  | fault more fails => cases isNone
  | token found read _ ih =>
      exact .token (skipBlanks_append_of_cons found _) (tokenFrom_append ends cut read)
        (ih behind isNone)

theorem Reads.append {d : Char} (ends : endsToken d = true) (plain : rules.separator = none)
    (reads : Reads rules afterOperand cs tokens none) {more : List Char} {others : List Token}
    (behind : Reads rules (behindOperand afterOperand tokens) (d :: more) others fault) :
    Reads rules afterOperand (cs ++ d :: more) (tokens ++ others) fault :=
  reads.cut ends (.inl plain) behind

/-- A character that is a token of its own. -/
theorem Reads.cons {c : Char} {token : Token} (notBlank : Text.isBlank c = false)
    (single : ∀ afterOperand rest, tokenFrom rules afterOperand c rest = .ok (token, rest))
    (reads : Reads rules token.endsOperand cs tokens fault) :
    Reads rules afterOperand (c :: cs) (token :: tokens) fault := by
  refine .token ?_ (single afterOperand cs) reads
  rw [Text.skipBlanks, List.dropWhile_cons, notBlank]
  rfl

end Reads

end TemplateCalc.Scan
