import TemplateCalc.Proofs.Branch
import TemplateCalc.Proofs.Lockstep.Parallel

/-!
Texts that are accepted.

An evaluation that ends with a value has passed over all tokens of its text, and the brackets among
them are nested properly. The brackets that are open are kept along the way: opening ones are passed
over only to look for the closing one later, and a branch that is passed over leaves them as they
were.
-/

set_option autoImplicit false

namespace TemplateCalc.Session

variable {σ α : Type}

/-- The tokens of a text up to the one in view leave these brackets open. At the end all of them were
passed over. -/
def Reaches (tokens : List Token) (opened : List Bracket) (token : Token) (rest : List Token) :
    Prop :=
  ∃ behind, behind.foldlM bracketsBehind [] = some opened ∧
    (behind ++ token :: rest = tokens ∨ behind = tokens ∧ token = .finish ∧ rest = [])

section Reaches

variable {tokens rest : List Token} {opened outer behind : List Bracket} {token next : Token}

theorem Reaches.pass_cons (reaches : Reaches tokens opened token (next :: rest))
    (moved : bracketsBehind opened token = some behind) : Reaches tokens behind next rest := by
  obtain ⟨before, folded, here | ⟨_, _, impossible⟩⟩ := reaches
  · refine ⟨before ++ [token], ?_, .inl ?_⟩
    · rw [List.foldlM_append, folded]
      simpa using moved
    · rw [List.append_assoc]
      exact here
  · cases impossible

theorem Reaches.pass_last (reaches : Reaches tokens opened token []) (more : token ≠ .finish)
    (moved : bracketsBehind opened token = some behind) : Reaches tokens behind .finish [] := by
  obtain ⟨before, folded, here | ⟨_, atEnd, _⟩⟩ := reaches
  · refine ⟨before ++ [token], ?_, .inr ⟨here, rfl, rfl⟩⟩
    rw [List.foldlM_append, folded]
    simpa using moved
  · exact absurd atEnd more

/-- Passing over a branch closes the brackets that it opens. -/
theorem Reaches.skips {branch : Branch} {fault : Option LexicalFault} {found : Token × List Token}
    {brackets : List Bracket} {pending : Nat} {skipped : Bool}
    (skips : Skips branch fault found brackets pending skipped token rest)
    (reaches : Reaches tokens (brackets ++ outer) token rest) :
    Reaches tokens outer found.1 found.2 := by
  induction skips with
  | halt verdict =>
      obtain rfl := brackets_of_halt verdict
      exact reaches
  | @last brackets pending waiting skipped token verdict readable =>
      have more : token ≠ .finish := by
        rintro rfl
        cases brackets <;> cases verdict
      exact reaches.pass_last more (bracketsBehind_append (bracketsBehind_of_pass verdict) outer)
  | more verdict _ ih =>
      exact ih (reaches.pass_cons (bracketsBehind_append (bracketsBehind_of_pass verdict) outer))

end Reaches

structure Inside (tokens : List Token) (opened : List Bracket) (s : Session σ) : Prop where
  readable : s.fault = none
  reaches : Reaches tokens opened s.token s.rest

def following (tokens : List Token) : Lockstep σ where
  related opened s s' := s' = s ∧ Inside tokens opened s
  ended _ _ := True
  excused _ := False
  lost _ := False
  flags effects effects' := effects' = effects
  known _ := True
  offered _ := True

section Following

variable {tokens : List Token} {opened behind : List Bracket} {s : Session σ}

/-- Of a run beside itself only its end has to be looked at. -/
theorem sim_following {m : Eval σ α} {Post : α → Session σ → Session σ → Prop}
    (holds : ∀ a t, m s = (.ok a, t) → Post a t t) :
    (following tokens).Sim Lockstep.never m m s s Post where
  ok ran := .inr ⟨_, ran, holds _ _ ran⟩
  error ran := .inr ⟨_, ran, trivial⟩

theorem Inside.advance (inside : Inside tokens opened s) (more : s.token ≠ .finish)
    (moved : bracketsBehind opened s.token = some behind) :
    (following tokens).Sim Lockstep.never Session.advance Session.advance s s
      (fun _ t t' => t' = t ∧ Inside tokens behind t) := by
  have reaches := inside.reaches
  apply sim_following
  intro token t passed
  cases others : s.rest with
  | nil =>
      rw [others] at reaches
      rw [run_advance_end others inside.readable] at passed
      cases passed
      exact ⟨rfl, inside.readable, reaches.pass_last more moved⟩
  | cons next rest =>
      rw [others] at reaches
      rw [run_advance_cons others] at passed
      cases passed
      exact ⟨rfl, inside.readable, reaches.pass_cons moved⟩

theorem Inside.skip (inside : Inside tokens opened s) (branch : Branch) :
    (following tokens).Sim Lockstep.never (skipOperand branch) (skipOperand branch) s s
      (fun _ t t' => t' = t ∧ Inside tokens opened t) := by
  apply sim_following
  intro _ t ran
  rw [run_skipOperand] at ran
  split at ran
  · rename_i passed
    cases ran
    exact ⟨rfl, inside.readable, Reaches.skips (skips_of_skipBranch passed) inside.reaches⟩
  · cases ran

theorem following_lawful : (following tokens : Lockstep σ).Lawful where
  view met := .inl (by rw [met.1])
  lost_finish gone := gone.elim
  lost_excused gone := gone.elim
  excused_missing excused := excused.elim
  ending _ := trivial
  plain := by
    rintro opened s _ ⟨rfl, inside⟩ _ plain
    apply inside.advance
    · intro atEnd
      rw [atEnd] at plain
      cases plain
    · exact bracketsBehind_of_isPlain plain _
  -- brackets are the tokens that change what is open
  entering := by
    rintro opened s _ b ⟨rfl, inside⟩ _ viewed
    apply inside.advance
    · cases b <;> rw [viewed] <;> exact Token.noConfusion
    · cases b <;> rw [viewed] <;> rfl
  leaving := by
    rintro opened s _ b ⟨rfl, inside⟩ _ viewed
    apply inside.advance
    · cases b <;> rw [viewed] <;> exact Token.noConfusion
    · cases b <;> rw [viewed] <;> rfl
  stray := by
    rintro γ opened s _ e ⟨rfl, _⟩ _
    -- behind a stray bracket there is an error, so nothing has to be shown of its end
    apply sim_following
    intro a t ran
    obtain ⟨_, _, _, impossible⟩ := ok_of_bind ran
    cases impossible
  skipFirst := by
    rintro opened s _ ⟨rfl, inside⟩
    exact (inside.skip .first).mayLose
  skipSecond := by
    rintro opened s _ ⟨rfl, inside⟩
    exact inside.skip .second
  noting _ met := ⟨by rw [met.1], met.2.readable, met.2.reaches⟩
  reading met _ := by rw [met.1]
  sinking met := ⟨by rw [met.1], met.2.readable, met.2.reaches⟩
  rising met := ⟨by rw [met.1], met.2.readable, met.2.reaches⟩
  rising_ended _ := trivial
  word _ _ := ⟨⟨trivial, fun _ => trivial⟩, fun _ => ⟨trivial, fun _ => trivial⟩, fun _ _ => trivial⟩
  quoted _ _ := ⟨trivial, fun _ => trivial⟩
  mask other same := congrArg (· && other) same
  writing _ same _ := same
  asking _ _ same := same
  setting _ met _ := ⟨by rw [met.1], met.2.readable, met.2.reaches⟩
  drawing met := ⟨by rw [met.1], fun _ => ⟨by rw [met.1], met.2.readable, met.2.reaches⟩⟩
  replying met := ⟨by rw [met.1], fun _ => ⟨by rw [met.1], met.2.readable, met.2.reaches⟩⟩

/-- An evaluation with a value ends behind the last token, with no bracket open. -/
theorem inside_of_whole {env : Surroundings σ} {maxDepth : Nat} {effects : Bool} {t : Session σ}
    {value : Value} (inside : Inside tokens [] s)
    (ran : whole env maxDepth effects s = (.ok value, t)) : Inside tokens [] t := by
  have lawful : (following tokens : Lockstep σ).Lawful := following_lawful
  have nesting := lawful.nesting env (fun _ gone => gone) maxDepth
  have met : (following tokens).related [] s s := ⟨rfl, inside⟩
  have sim := Lockstep.sim_whole env lawful (fun _ gone => gone) nesting
    (rfl : (following tokens : Lockstep σ).flags effects effects) met
  rcases sim.ok ran with gone | ⟨_, _, _, inside⟩
  · exact gone.elim
  · exact inside

theorem Inside.ended (inside : Inside tokens [] s) (noEnd : .finish ∉ tokens)
    (atEnd : s.token = .finish) : s.ahead = [.finish] ∧ wellNested tokens = true := by
  obtain ⟨behind, folded, here | ⟨rfl, _, rest⟩⟩ := inside.reaches
  · -- in front of the last token the one in view would be a token of the text
    refine absurd ?_ noEnd
    rw [← here, atEnd]
    simp
  · rw [ahead, atEnd, rest]
    exact ⟨rfl, beq_iff_eq.mpr folded⟩

end Following

end TemplateCalc.Session

namespace TemplateCalc.Calculator

open Session

variable {σ : Type}

/-- If the evaluation of a text gives a value, the text can be read to its end, the evaluation has
passed over all its tokens, and the brackets among them are nested properly, those in branches that
were not taken included. -/
theorem accepted_text_is_well_nested (env : Surroundings σ) (options : EvalOptions)
    (c : Calculator σ) (text : String) {value : Value}
    (accepted : (c.evaluate env options text).result = .ok value) :
    let reading := Scan.scan options.rules text
    reading.fault = none ∧
      (∃ s t, c.session? reading = .ok s ∧ s.ahead = reading.tokens ∧
        whole env options.maxDepth options.sideEffects s = (.ok value, t) ∧
        t.ahead = [.finish]) ∧
      wellNested reading.tokens = true := by
  intro reading
  rw [(evaluate_eq env options c text).1] at accepted
  obtain ⟨token, rest, t, scanned, ran, _⟩ := session_of_ok accepted
  have isReading : reading = ⟨token :: rest, none⟩ := scanned
  have noEnd : .finish ∉ reading.tokens := (Scan.scan_reads options.rules text).finish_not_mem
  have start : Inside (token :: rest) [] (c.opening token rest) := ⟨rfl, [], rfl, .inl rfl⟩
  rw [isReading] at noEnd ⊢
  obtain ⟨ended, nested⟩ := (inside_of_whole start ran).ended noEnd (token_of_whole ran)
  exact ⟨rfl, ⟨_, t, rfl, rfl, ran, ended⟩, nested⟩

/-- A text with parentheses in an index, and with nested brackets in a branch that is passed over. -/
theorem brackets_of_passed_branch :
    let env : Surroundings Unit := ⟨Host.none, none, 0⟩
    let c : Calculator Unit := { random := Random.ofSeed 0, dialog := () }
    let text := "\"ab\"[(1)] == 98 ? (7) : f(x[0], [()])"
    let reading := Scan.scan ({} : EvalOptions).rules text
    (c.evaluate env {} text).result = .ok (.int 7) ∧ reading.fault = none ∧
      (∃ s t, c.session? reading = .ok s ∧ s.ahead = reading.tokens ∧
        whole env 64 true s = (.ok (.int 7), t) ∧ t.ahead = [.finish]) ∧
      wellNested reading.tokens = true := by
  intro env c text reading
  have accepted : (c.evaluate env {} text).result = .ok (.int 7) :=
    eq_of_isInt (by decide +kernel)
  exact ⟨accepted, accepted_text_is_well_nested env {} c text accepted⟩

end TemplateCalc.Calculator
