import TemplateCalc.Console.Run
import TemplateCalc.Proofs.Console.Exchange

/-!
The rounds of a run on the console.

Without expressions on the command line, a run takes a line, carries out what it asks for, and takes the
next one. An evaluation meanwhile may take lines of its own for questions. Every line is taken once,
and a run comes to an end because no round leaves more lines than it found.
-/

set_option autoImplicit false

namespace TemplateCalc.Console

/-- The start of a run that works through its input, or what such a run leaves if its settings or its
data cannot be read. -/
def opening (world : World) (line : CommandLine) : Except Output (Setup × State) :=
  let (journal, found) := settings world line
  let output := Output.reportAll {} line.detail journal
  match found with
  | .error e => .error (output.fail ("config: " ++ e.text) 2)
  | .ok settings =>
    match dataBytes world line with
    | .error reason => .error (output.fail reason 2)
    | .ok (data, journal) =>
      let table : SymbolTable := { data }
      .ok (⟨line, settings, ⟨table.host, some dialog, world.now⟩⟩,
        { calculator := { random := Random.ofSeed world.seed, dialog := world.input }
          output := output.reportAll line.detail journal })

/-- A run without expressions works through its input, once it is opened. -/
theorem carryOut_interactive (world : World) {line : CommandLine}
    (interactive : line.expressions = []) :
    carryOut world line =
      match opening world line with
      | .error output => output
      | .ok (setup, start) => (interact setup (world.input.length + 1) start).output := by
  unfold carryOut opening
  simp only [interactive, List.isEmpty_nil, if_true]
  rcases settings world line with ⟨journal, e | found⟩
  · rfl
  · rcases dataBytes world line with reason | ⟨data, read⟩
    · rfl
    · rfl

theorem opening_ok {world : World} {line : CommandLine} {setup : Setup} {start : State}
    (opened : opening world line = .ok (setup, start)) :
    setup.env.dialog = some dialog ∧ start.calculator.dialog = world.input := by
  unfold opening at opened
  generalize settings world line = prepared at opened
  rcases prepared with ⟨journal, e | found⟩
  · cases opened
  · generalize dataBytes world line = loaded at opened
    rcases loaded with reason | ⟨data, read⟩
    · cases opened
    · cases opened
      exact ⟨rfl, rfl⟩

/-! ### Rounds -/

structure Round where
  line : String
  exchanges : List Exchange

def Round.lines (round : Round) : List String :=
  round.line :: round.exchanges.flatMap Exchange.lines

def State.facing (s : State) (lines : List String) : State :=
  { s with calculator := { s.calculator with dialog := lines.map .text } }

theorem State.facing_dialog (s : State) (lines : List String) :
    (s.facing lines).calculator.dialog = lines.map .text := rfl

/-- What a command takes from the lines behind its own, and what it leaves. Only an evaluation takes
some, for the questions that its journal shows. -/
inductive Command.Takes (setup : Setup) (s : State) :
    Command → List String → List Exchange → List String → Prop where
  | evaluation {text : String} {lines left : List String} {exchanges : List Exchange} :
      Asked lines exchanges left (s.calculator.evaluate setup.env setup.settings.eval text).result →
      talk (s.calculator.evaluate setup.env setup.settings.eval text).journal =
        exchanges.flatMap Exchange.events →
      Takes setup s (.evaluate text) lines exchanges left
  | other {command : Command} {lines : List String} :
      (∀ text, command ≠ .evaluate text) → Takes setup s command lines [] lines

inductive Command.Ends (setup : Setup) (s : State) : Command → Prop where
  | quit : Ends setup s .quit
  | stopped {text : String} {e : EvalError} :
      (s.calculator.evaluate setup.env setup.settings.eval text).result = .error e →
      e.stops = true → Ends setup s (.evaluate text)

/-- The rounds of a run, from a state to the one where the run ends: the input is used up, a line asks
to quit, or an evaluation stops the program. -/
inductive Rounds (setup : Setup) : State → List Round → State → Prop where
  | ended {s : State} : s.calculator.dialog = [] → Rounds setup s [] s
  | last {s final : State} {line : String} {rest left : List String} {exchanges : List Exchange} :
      s.calculator.dialog = (line :: rest).map .text →
      (Command.ofLine line).Ends setup (s.facing rest) →
      (Command.ofLine line).carryOut setup (s.facing rest) = (false, final) →
      Command.Takes setup (s.facing rest) (Command.ofLine line) rest exchanges left →
      final.calculator.dialog = left.map .text →
      Rounds setup s [⟨line, exchanges⟩] final
  | round {s t final : State} {line : String} {rest left : List String}
      {exchanges : List Exchange} {rounds : List Round} :
      s.calculator.dialog = (line :: rest).map .text →
      (Command.ofLine line).carryOut setup (s.facing rest) = (true, t) →
      Command.Takes setup (s.facing rest) (Command.ofLine line) rest exchanges left →
      t.calculator.dialog = left.map .text →
      Rounds setup t rounds final → Rounds setup s (⟨line, exchanges⟩ :: rounds) final

/-! ### Commands -/

theorem listVariables_calculator (s : State) : (listVariables s).calculator = s.calculator := by
  unfold listVariables
  generalize s.calculator.vars.sorted = entries
  induction entries generalizing s with
  | nil => rfl
  | cons entry entries ih => exact ih _

/-- Another random source does not change what is left of the input. -/
theorem reseeded_dialog (s : State) (random : Random) :
    ({ s with calculator := { s.calculator with random := random } } : State).calculator.dialog =
      s.calculator.dialog := rfl

theorem evaluateLine_calculator (setup : Setup) (s : State) (text : String) :
    (evaluateLine setup s text).2.calculator =
      (s.calculator.evaluate setup.env setup.settings.eval text).calculator := by
  unfold evaluateLine
  simp only
  split
  · rfl
  · split <;> rfl

theorem evaluateLine_stopped {setup : Setup} {s : State} {text : String}
    (ended : (evaluateLine setup s text).1 = .stopped) :
    ∃ e, (s.calculator.evaluate setup.env setup.settings.eval text).result = .error e ∧
      e.stops = true := by
  unfold evaluateLine at ended
  simp only at ended
  split at ended
  · cases ended
  · next e failed =>
      split at ended
      · next stops => exact ⟨e, failed, stops⟩
      · cases ended

theorem Command.ends_of_carryOut {setup : Setup} {s t : State} {command : Command}
    (carried : command.carryOut setup s = (false, t)) : command.Ends setup s := by
  cases command with
  | quit => exact .quit
  | evaluate text =>
      have isOver : ((evaluateLine setup s text).1 != .stopped) = false :=
        congrArg Prod.fst carried
      obtain ⟨e, failed, stops⟩ := evaluateLine_stopped (by simpa using isOver)
      exact .stopped failed stops
  | _ => cases carried

/-- What a command takes from the lines behind its own. -/
theorem Command.takes {setup : Setup} (console : setup.env.dialog = some dialog) {s t : State}
    {lines : List String} (input : s.calculator.dialog = lines.map .text) {command : Command}
    {goesOn : Bool} (carried : command.carryOut setup s = (goesOn, t)) :
    ∃ exchanges left, Takes setup s command lines exchanges left ∧
      lines = exchanges.flatMap Exchange.lines ++ left ∧
      t.calculator.dialog = left.map .text := by
  obtain rfl : (command.carryOut setup s).2 = t := congrArg Prod.snd carried
  cases command with
  | quit | nothing | unknown name => exact ⟨[], lines, .other nofun, rfl, input⟩
  | seed n =>
      refine ⟨[], lines, .other nofun, rfl, ?_⟩
      rw [carryOut, reseeded_dialog, input]
  | showVariables =>
      refine ⟨[], lines, .other nofun, rfl, ?_⟩
      rw [carryOut, listVariables_calculator, input]
  | evaluate text =>
      obtain ⟨exchanges, left, asked, dialog, shown⟩ :=
        s.calculator.evaluate_asks console setup.settings.eval text input
      refine ⟨exchanges, left, .evaluation asked shown, asked.input, ?_⟩
      rw [carryOut, evaluateLine_calculator, dialog]

theorem evaluateLine_stderr {setup : Setup} {s : State} {text : String} {e : EvalError}
    (failed : (s.calculator.evaluate setup.env setup.settings.eval text).result = .error e)
    (goesOn : e.stops = false) :
    ∃ before, (evaluateLine setup s text).2.output.stderr =
      before ++ ("error: " ++ e.shownAs setup.settings.eval.legacyMessages ++ "\n") := by
  unfold evaluateLine
  simp only [failed, goesOn, Calculator.lastError_evaluate failed]
  exact ⟨_, rfl⟩

/-- A command with a question that was cancelled leaves no input, and says so. -/
theorem Command.Takes.cancelled {setup : Setup} {s t : State} {command : Command}
    {lines left : List String} {exchanges : List Exchange}
    (takes : Takes setup s command lines exchanges left) {goesOn : Bool}
    (carried : command.carryOut setup s = (goesOn, t)) {x : Exchange} (member : x ∈ exchanges)
    (unanswered : x.answer = none) :
    left = [] ∧
      ∃ before, t.output.stderr = before ++ ("error: " ++ x.question.cancelText ++ "\n") := by
  cases takes with
  | other _ => cases member
  | evaluation asked _ =>
      obtain ⟨nothing, failed⟩ := asked.cancelled member unanswered
      obtain ⟨before, said⟩ := evaluateLine_stderr failed rfl
      rw [Question.shownAs_cancelled] at said
      obtain rfl : (evaluateLine setup s _).2 = t := congrArg Prod.snd carried
      exact ⟨nothing, before, said⟩

/-! ### Runs -/

section Turns

variable {setup : Setup} {s t : State} {line : String} {rest : List String}

/-- The turn of the loop that ends it. -/
theorem interact_last (fuel : Nat) (input : s.calculator.dialog = (line :: rest).map .text)
    (carried : (Command.ofLine line).carryOut setup (s.facing rest) = (false, t)) :
    interact setup (fuel + 1) s = t := by
  rw [interact, input, List.map_cons]
  simp only [State.facing] at carried ⊢
  rw [carried]

/-- A turn of the loop behind which there is another one. -/
theorem interact_round (fuel : Nat) (input : s.calculator.dialog = (line :: rest).map .text)
    (carried : (Command.ofLine line).carryOut setup (s.facing rest) = (true, t)) :
    interact setup (fuel + 1) s = interact setup fuel t := by
  rw [interact, input, List.map_cons]
  simp only [State.facing] at carried ⊢
  rw [carried]

end Turns

/-- A round with a question that was cancelled is the last one. -/
theorem Rounds.cancelled {setup : Setup} {s final : State} {rounds : List Round}
    (run : Rounds setup s rounds final) {round : Round} {x : Exchange}
    (member : x ∈ round.exchanges) (unanswered : x.answer = none) (front back : List Round)
    (split : rounds = front ++ round :: back) :
    back = [] ∧ final.calculator.dialog = [] ∧
      ∃ before, final.output.stderr =
        before ++ ("error: " ++ x.question.cancelText ++ "\n") := by
  induction run generalizing front with
  | ended _ => exact absurd split.symm (List.append_ne_nil_of_right_ne_nil _ (List.cons_ne_nil _ _))
  | last _ _ carried takes found =>
      cases front with
      | nil =>
          cases split
          obtain ⟨rfl, said⟩ := takes.cancelled carried member unanswered
          exact ⟨rfl, found, said⟩
      | cons first front =>
          have impossible := (List.cons.inj split).2
          exact absurd impossible.symm
            (List.append_ne_nil_of_right_ne_nil _ (List.cons_ne_nil _ _))
  | round _ carried takes found rest ih =>
      cases front with
      | cons first front => exact ih front (List.cons.inj split).2
      | nil =>
          cases split
          obtain ⟨rfl, said⟩ := takes.cancelled carried member unanswered
          -- Without input the run ends in front of the next round.
          cases rest with
          | ended _ => exact ⟨rfl, found, said⟩
          | last input _ _ _ _ => exact absurd (input.symm.trans found) (List.cons_ne_nil _ _)
          | round input _ _ _ _ => exact absurd (input.symm.trans found) (List.cons_ne_nil _ _)

/-- A run goes through its rounds one after the other. It needs no more turns than there are lines,
since no round leaves more than it found behind its line. -/
theorem interact_rounds {setup : Setup} (console : setup.env.dialog = some dialog) :
    ∀ (lines : List String) (s : State), s.calculator.dialog = lines.map .text →
      ∃ rounds left final, Rounds setup s rounds final ∧
        lines = rounds.flatMap Round.lines ++ left ∧ final.calculator.dialog = left.map .text ∧
        ∀ fuel, lines.length < fuel → interact setup fuel s = final
  | [], s, input => by
      refine ⟨[], [], s, .ended input, rfl, input, ?_⟩
      intro fuel enough
      cases fuel with
      | zero => cases enough
      | succ fuel => rw [interact, input, List.map_nil]
  | line :: rest, s, input => by
      rcases carried : (Command.ofLine line).carryOut setup (s.facing rest) with ⟨goesOn, t⟩
      obtain ⟨exchanges, middle, takes, taken, dialog⟩ :=
        Command.takes console (s.facing_dialog rest) carried
      cases goesOn with
      | false =>
          refine ⟨[⟨line, exchanges⟩], middle, t,
            .last input (Command.ends_of_carryOut carried) carried takes dialog, ?_, dialog, ?_⟩
          · rw [taken, List.flatMap_singleton]
            rfl
          · intro fuel enough
            cases fuel with
            | zero => cases enough
            | succ fuel => exact interact_last fuel input carried
      | true =>
          have shorter : middle.length ≤ rest.length := by
            rw [taken, List.length_append]
            omega
          -- the recursion is on the input: a round leaves no more than it found behind its line
          obtain ⟨rounds, left, final, run, inOrder, found, ends⟩ :=
            interact_rounds console middle t dialog
          refine ⟨⟨line, exchanges⟩ :: rounds, left, final,
            .round input carried takes dialog run, ?_, found, ?_⟩
          · rw [List.flatMap_cons, List.append_assoc, ← inOrder, taken]
            rfl
          · intro fuel enough
            cases fuel with
            | zero => cases enough
            | succ fuel =>
                rw [interact_round fuel input carried]
                exact ends fuel (Nat.lt_of_le_of_lt shorter (Nat.lt_of_succ_lt_succ enough))
termination_by lines => lines.length
decreasing_by
  exact Nat.lt_succ_of_le shorter

/-- A run that makes the given rounds of its input and leaves the rest: every line is taken once, in
order, either by the loop or by the one question that it answers or does not answer. -/
structure Consumed (setup : Setup) (start : State) (lines : List String) (rounds : List Round)
    (left : List String) (final : State) : Prop where
  run : Rounds setup start rounds final
  input : lines = rounds.flatMap Round.lines ++ left
  rest : final.calculator.dialog = left.map .text
  /-- However many turns are allowed, the loop ends in the same state after one for each line. -/
  ends : ∀ fuel, lines.length < fuel → interact setup fuel start = final
  /-- A question that meets the end of the input makes its evaluation fail, and nothing follows. -/
  cancels : ∀ front round back x, rounds = front ++ round :: back → x ∈ round.exchanges →
    x.answer = none → back = [] ∧ left = [] ∧
      ∃ before, final.output.stderr = before ++ ("error: " ++ x.question.cancelText ++ "\n")

/-- Without expressions on the command line the program works through its input and ends, whatever
questions are asked and whether or not there is an answer to them. If its settings or its data cannot
be read it ends before the first line. -/
theorem every_line_is_taken_once {world : World} {args : List String} {line : CommandLine}
    {lines : List String} (parsed : CommandLine.ofArguments args = .ok line)
    (interactive : line.expressions = []) (readable : world.input = lines.map .text) :
    match opening world line with
    | .error output => run world args = .ok output
    | .ok (setup, start) =>
      ∃ rounds left final, Consumed setup start lines rounds left final ∧
        run world args = .ok final.output := by
  have ran : run world args = .ok (carryOut world line) := by
    rw [run, parsed]
    rfl
  rw [ran, carryOut_interactive world interactive]
  cases opened : opening world line with
  | error output => rfl
  | ok found =>
      obtain ⟨setup, start⟩ := found
      obtain ⟨console, untouched⟩ := opening_ok opened
      obtain ⟨rounds, left, final, went, input, rest, ends⟩ :=
        interact_rounds console lines start (untouched.trans readable)
      refine ⟨rounds, left, final, ⟨went, input, rest, ends, ?_⟩, ?_⟩
      · intro front round back x split member unanswered
        obtain ⟨last, none, said⟩ := went.cancelled member unanswered front back split
        rw [rest, List.map_eq_nil_iff] at none
        exact ⟨last, none, said⟩
      · have enough : lines.length < world.input.length + 1 := by
          rw [readable, List.length_map]
          exact Nat.lt_succ_self _
        simp only [ends _ enough]

/-- A number from an empty range, for which only a blank line will do, and a choice between words that
no line is equal to. -/
theorem questions_without_answer :
    let lines := ["get_int(\"n\", 7, 5, 1)\n", "3\n", "\n", ":vars\n",
      "get_bool(\"b\", \" y\", \" n\")\n", "y\n"]
    let world : World := ⟨fun _ => .missing, none, lines.map .text, 0, 0⟩
    ∃ setup start rounds left final, opening world {} = .ok (setup, start) ∧
      Consumed setup start lines rounds left final ∧ run world [] = .ok final.output ∧
      final.output.stdout = "7\n" ∧
      final.output.stderr = "n [7] Enter a number from 5 to 1\nn [7] b ( y/ n) b ( y/ n) " ++
        "error: Input cancelled for \"get_bool\"\n" := by
  intro lines world
  obtain ⟨setup, start, opened⟩ : ∃ setup start, opening world {} = .ok (setup, start) :=
    ⟨_, _, rfl⟩
  have taken := @every_line_is_taken_once world [] {} lines rfl rfl rfl
  rw [opened] at taken
  obtain ⟨rounds, left, final, consumed, ran⟩ := taken
  have printed : (run world []).toOption.map (fun output => (output.stdout, output.stderr)) =
      some ("7\n", "n [7] Enter a number from 5 to 1\nn [7] b ( y/ n) b ( y/ n) " ++
        "error: Input cancelled for \"get_bool\"\n") := by
    subst world lines
    decide +kernel
  rw [ran] at printed
  obtain ⟨stdout, stderr⟩ := Prod.mk.inj (Option.some.inj printed)
  exact ⟨setup, start, rounds, left, final, opened, consumed, ran, stdout, stderr⟩

end TemplateCalc.Console
