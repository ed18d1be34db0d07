import TemplateCalc.Calculator
import TemplateCalc.Console.Dialog
import TemplateCalc.Proofs.Walk

/-!
Questions and the input.

A question on the console takes lines from the input until one of them answers it, and is cancelled if
there is none. An evaluation may ask any number of questions. What it takes from the input is what its
questions take, one after the other, and a question that is cancelled is the last one.
-/

set_option autoImplicit false

namespace TemplateCalc

namespace Console

inductive Question where
  | integer (prompt : String) (initial least greatest : Int64)
  | text (prompt initial : String)
  | choice (prompt yes no : String)

namespace Question

def kind : Question → QuestionKind
  | integer .. => .integer
  | text .. => .text
  | choice .. => .choice

def function : Question → Function
  | integer .. => .getInt
  | text .. => .getString
  | choice .. => .getBool

def cancelText (q : Question) : String :=
  "Input cancelled for " ++ q.function.quotedName

theorem shownAs_cancelled (q : Question) (legacy : Bool) :
    (EvalError.host (.cancelled q.function)).shownAs legacy = q.cancelText := rfl

def prompt : Question → String
  | integer prompt .. | text prompt _ | choice prompt .. => prompt

def asked : Question → String
  | integer prompt initial _ _ => prompt ++ " [" ++ Numeral.signed initial.toInt ++ "]"
  | text prompt initial => prompt ++ " [" ++ initial ++ "]"
  | choice prompt yes no => prompt ++ " (" ++ yes ++ "/" ++ no ++ ")"

def remark : Question → String
  | integer _ _ least greatest =>
    "Enter a number from " ++ Numeral.signed least.toInt ++ " to " ++ Numeral.signed greatest.toInt ++
      "\n"
  | text .. | choice .. => ""

def accepts (q : Question) (line : String) : Bool :=
  match q with
  | integer _ initial least greatest =>
    (acceptInteger initial least greatest (withoutEnd line)).isSome
  | text _ initial => (acceptText initial (withoutEnd line)).isSome
  | choice _ yes no => (acceptChoice yes no (withoutEnd line)).isSome

def shown (q : Question) : (refused : List String) → String
  | [] => q.asked ++ " "
  | _ :: refused => q.asked ++ " " ++ q.remark ++ q.shown refused

end Question

/-- A question with the lines it took: those that would not do and then the one that answered it. No
line answers a question that is cancelled. -/
structure Exchange where
  question : Question
  refused : List String
  answer : Option String
  refuses : ∀ line ∈ refused, question.accepts line = false
  accepts : ∀ line ∈ answer, question.accepts line = true

namespace Exchange

def lines (x : Exchange) : List String :=
  x.refused ++ x.answer.toList

def events (x : Exchange) : List Event :=
  [.asking x.question.kind x.question.prompt, .shown (x.question.shown x.refused)]

def refuse (x : Exchange) (line : String) (refused : x.question.accepts line = false) : Exchange where
  question := x.question
  refused := line :: x.refused
  answer := x.answer
  refuses := List.forall_mem_cons.mpr ⟨refused, x.refuses⟩
  accepts := x.accepts

structure Gives {α : Type} (x : Exchange) (lines : List String) (reply : Reply α (List Line))
    (left : List String) : Prop where
  input : lines = x.lines ++ left
  state : reply.state = left.map .text
  shown : reply.shown = x.question.shown x.refused
  answered : reply.answer.isSome = x.answer.isSome
  atEnd : x.answer = none → left = []

end Exchange

/-- A question takes lines up to the first one that answers it, or all of them. -/
theorem askUntil_gives {α : Type} (q : Question) (accept : String → Option α)
    (judged : ∀ line, q.accepts line = (accept (withoutEnd line)).isSome) (lines : List String) :
    ∃ (x : Exchange) (left : List String), x.question = q ∧
      x.Gives lines (askUntil q.asked q.remark accept (lines.map .text)) left := by
  induction lines with
  | nil =>
      exact ⟨⟨q, [], none, nofun, nofun⟩, [], rfl, ⟨rfl, rfl, rfl, rfl, fun _ => rfl⟩⟩
  | cons line rest ih =>
      have verdict := judged line
      rw [List.map_cons, askUntil]
      cases found : accept (withoutEnd line) with
      | some a =>
          rw [found, Option.isSome_some] at verdict
          have accepted : ∀ taken ∈ some line, q.accepts taken = true := by
            intro taken same
            cases same
            exact verdict
          exact ⟨⟨q, [], some line, nofun, accepted⟩, rest, rfl, ⟨rfl, rfl, rfl, rfl, nofun⟩⟩
      | none =>
          rw [found, Option.isSome_none] at verdict
          obtain ⟨x, left, rfl, gives⟩ := ih
          refine ⟨x.refuse line verdict, left, rfl, ?_⟩
          exact
            { input := congrArg (line :: ·) gives.input
              state := gives.state
              shown := congrArg (x.question.asked ++ " " ++ x.question.remark ++ ·) gives.shown
              answered := gives.answered
              atEnd := gives.atEnd }

/-- How a step ends that held the given exchanges: all questions were answered, or the last one met the
end of the input and the step failed. -/
inductive Ending {α : Type} : List Exchange → List String → Except EvalError α → Prop where
  | answered {exchanges : List Exchange} {left : List String} {result : Except EvalError α} :
      (∀ x ∈ exchanges, x.answer.isSome) → Ending exchanges left result
  | cancelled {front : List Exchange} {last : Exchange} :
      (∀ x ∈ front, x.answer.isSome) → last.answer = none →
      Ending (front ++ [last]) [] (.error (.host (.cancelled last.question.function)))

structure Asked {α : Type} (lines : List String) (exchanges : List Exchange) (left : List String)
    (result : Except EvalError α) : Prop where
  input : lines = exchanges.flatMap Exchange.lines ++ left
  ending : Ending exchanges left result

namespace Asked

variable {α β : Type}

theorem nothing (lines : List String) (result : Except EvalError α) : Asked lines [] lines result :=
  ⟨rfl, .answered nofun⟩

/-- Behind a step with a result all questions were answered. -/
theorem answers {lines left : List String} {exchanges : List Exchange} {a : α}
    (first : Asked lines exchanges left (.ok a)) : ∀ x ∈ exchanges, x.answer.isSome := by
  cases first.ending with
  | answered all => exact all

theorem append {lines middle left : List String} {front back : List Exchange} {a : α}
    {result : Except EvalError β} (first : Asked lines front middle (.ok a))
    (second : Asked middle back left result) : Asked lines (front ++ back) left result := by
  constructor
  · rw [List.flatMap_append, List.append_assoc, ← second.input]
    exact first.input
  · cases second.ending with
    | answered all =>
        exact .answered (List.forall_mem_append.mpr ⟨first.answers, all⟩)
    | cancelled all last =>
        rw [← List.append_assoc]
        exact .cancelled (List.forall_mem_append.mpr ⟨first.answers, all⟩) last

/-- Another result in place of one that does not say that a question was cancelled. -/
theorem change {lines left : List String} {exchanges : List Exchange} {result : Except EvalError α}
    {other : Except EvalError β} (asked : Asked lines exchanges left result)
    (same : ∀ f, result = .error (.host (.cancelled f)) → other = .error (.host (.cancelled f))) :
    Asked lines exchanges left other := by
  refine ⟨asked.input, ?_⟩
  cases asked.ending with
  | answered all => exact .answered all
  | cancelled all last =>
      rw [same _ rfl]
      exact .cancelled all last

/-- Where a question was cancelled the input is used up and the step failed. -/
theorem cancelled {lines left : List String} {exchanges : List Exchange}
    {result : Except EvalError α} (asked : Asked lines exchanges left result) {x : Exchange}
    (member : x ∈ exchanges) (unanswered : x.answer = none) :
    left = [] ∧ result = .error (.host (.cancelled x.question.function)) := by
  have notAnswered (exchanges : List Exchange) (all : ∀ y ∈ exchanges, y.answer.isSome) :
      x ∉ exchanges := by
    intro member
    have some := all x member
    rw [unanswered] at some
    cases some
  cases asked.ending with
  | answered all => exact absurd member (notAnswered _ all)
  | cancelled all last =>
      rcases List.mem_append.mp member with member | single
      · exact absurd member (notAnswered _ all)
      · rw [List.mem_singleton.mp single]
        exact ⟨rfl, rfl⟩

end Asked

def talk (journal : Journal) : List Event :=
  journal.toList.filter Event.inDialog

theorem talk_push (journal : Journal) (event : Event) :
    talk (journal.push event) = talk journal ++ [event].filter Event.inDialog := by
  rw [talk, Array.toList_push, List.filter_append, talk]

end Console

namespace Session

open Console

variable {α : Type}

/-- What the step takes from the input is what the questions take that it asks. -/
def Attends (α : Type) (m : Eval (List Line) α) : Prop :=
  ∀ s (lines : List String), s.dialog = lines.map .text →
    ∃ exchanges left, Asked lines exchanges left (m s).1 ∧ (m s).2.dialog = left.map .text ∧
      talk (m s).2.journal = talk s.journal ++ exchanges.flatMap Exchange.events

/-- A step without a question. -/
theorem attends_quiet {m : Eval (List Line) α} (alone : ∀ s, (m s).2.dialog = s.dialog)
    (quiet : ∀ s, talk (m s).2.journal = talk s.journal) : Attends α m := by
  intro s lines input
  refine ⟨[], lines, .nothing lines _, (alone s).trans input, ?_⟩
  rw [List.flatMap_nil, List.append_nil]
  exact quiet s

/-- A step that passes over tokens asks nothing. -/
theorem attends_moved {m : Eval (List Line) α}
    (moved : ∀ s, ∃ token rest, (m s).2 = { s with token := token, rest := rest }) :
    Attends α m := by
  apply attends_quiet
  · intro s
    obtain ⟨token, rest, same⟩ := moved s
    rw [same]
  · intro s
    obtain ⟨token, rest, same⟩ := moved s
    rw [same]

theorem attends_bind {β : Type} {m : Eval (List Line) α} {f : α → Eval (List Line) β}
    (first : Attends α m) (second : ∀ a, Attends β (f a)) : Attends β (m >>= f) := by
  intro s lines input
  obtain ⟨front, middle, asked, dialog, journal⟩ := first s lines input
  rw [run_bind]
  cases outcome : m s with
  | mk result t =>
      rw [outcome] at asked dialog journal
      cases result with
      | error e =>
          refine ⟨front, middle, asked.change ?_, dialog, journal⟩
          intro f same
          cases same
          rfl
      | ok a =>
          obtain ⟨back, left, askedNext, dialogNext, journalNext⟩ := second a t middle dialog
          refine ⟨front ++ back, left, asked.append askedNext, dialogNext, ?_⟩
          rw [List.flatMap_append, ← List.append_assoc]
          exact journalNext.trans (congrArg (· ++ back.flatMap Exchange.events) journal)

theorem attends_rethrow {m : Eval (List Line) α} (change : EvalError → EvalError)
    (fixed : ∀ e, e ≠ .notImplemented → change e = e) (kept : Attends α m) :
    Attends α (tryCatch m fun e => throw (change e)) := by
  intro s lines input
  obtain ⟨exchanges, left, asked, dialog, journal⟩ := kept s lines input
  rw [run_tryCatch]
  cases outcome : m s with
  | mk result t =>
      rw [outcome] at asked dialog journal
      cases result with
      | ok a => exact ⟨exchanges, left, asked, dialog, journal⟩
      | error e =>
          refine ⟨exchanges, left, asked.change ?_, dialog, journal⟩
          intro f same
          cases same
          exact congrArg Except.error (fixed _ nofun)

/-- The steps whose questions account for what they take are closed under what levels do. -/
theorem closed_attends : Closed Attends (fun _ => True) where
  mask _ _ := trivial
  keeps_pure _ := attends_quiet (fun _ => rfl) fun _ => rfl
  keeps_throw _ := attends_quiet (fun _ => rfl) fun _ => rfl
  keeps_bind := attends_bind
  keeps_rethrow := attends_rethrow
  keeps_get := attends_quiet (fun _ => rfl) fun _ => rfl
  keeps_advance := attends_moved advance_state
  keeps_skipOperand branch := attends_moved (skipOperand_state branch)
  keeps_note event quiet := by
    apply attends_quiet fun _ => rfl
    intro s
    change talk (s.journal.push event) = _
    rw [talk_push, List.filter_cons_of_neg (ne_true_of_eq_false quiet), List.filter_nil,
      List.append_nil]
  keeps_store {effects} _ name value := by
    cases effects with
    | false => exact attends_quiet (fun _ => rfl) fun _ => rfl
    | true => exact attends_quiet (fun _ => rfl) fun _ => rfl
  keeps_deeper kept s lines input := kept { s with depth := s.depth + 1 } lines input

variable {env : Surroundings (List Line)}

/-- What asking a question does, if there is a dialog. -/
theorem run_ask {d : Dialog (List Line)} (available : env.dialog = some d) (f : Function)
    (kind : QuestionKind) (prompt : String)
    (question : Dialog (List Line) → List Line → Reply α (List Line)) (s : Session (List Line)) :
    ask env f kind prompt question s =
      ((question d s.dialog).answer.elim (.error (.host (.cancelled f))) .ok,
        { s with
          dialog := (question d s.dialog).state
          journal := (s.journal.push (.asking kind prompt)).push
            (.shown (question d s.dialog).shown) }) := by
  unfold ask
  rw [available, run_bind_ok (run_note _ s)]
  simp only
  rw [run_bind_ok (run_get _), run_bind_ok (run_set _ _), run_bind_ok (run_note _ _)]
  cases (question d s.dialog).answer <;> rfl

/-- A question on the console is one exchange. -/
theorem attends_ask (console : env.dialog = some Console.dialog) (q : Question)
    {question : Dialog (List Line) → List Line → Reply α (List Line)}
    (gives : ∀ lines : List String, ∃ (x : Exchange) (left : List String), x.question = q ∧
      x.Gives lines (question Console.dialog (lines.map .text)) left) :
    Attends α (ask env q.function q.kind q.prompt question) := by
  intro s lines input
  obtain ⟨x, left, rfl, found⟩ := gives lines
  rw [run_ask console, input]
  have taken : lines = [x].flatMap Exchange.lines ++ left := by
    rw [List.flatMap_singleton]
    exact found.input
  refine ⟨[x], left, ⟨taken, ?_⟩, found.state, ?_⟩
  · have answered := found.answered
    cases answer : x.answer with
    | none =>
        rw [answer, Option.isSome_none, Option.isSome_eq_false_iff, Option.isNone_iff_eq_none]
          at answered
        rw [answered, found.atEnd answer]
        have nobody : ∀ y ∈ ([] : List Exchange), y.answer.isSome := nofun
        exact .cancelled nobody answer
    | some line =>
        apply Ending.answered
        intro y single
        rw [List.mem_singleton.mp single, answer]
        rfl
  · rw [found.shown, talk_push, talk_push, List.append_assoc]
    rfl

/-- On the console the functions of the host take nothing from the input but by questions. -/
theorem answering_attends (console : env.dialog = some Console.dialog) :
    Answering Attends (fun _ => True) env where
  draws _ _ := attends_quiet (fun _ => rfl) fun _ => rfl
  integer _ prompt initial least greatest :=
    attends_ask console (.integer prompt initial least greatest)
      (askUntil_gives _ (acceptInteger initial least greatest) fun _ => rfl)
  text _ prompt initial :=
    attends_ask console (.text prompt initial)
      (askUntil_gives _ (acceptText initial) fun _ => rfl)
  choice _ prompt yes no :=
    attends_ask console (.choice prompt yes no)
      (askUntil_gives _ (acceptChoice yes no) fun _ => rfl)

theorem attends_whole (console : env.dialog = some Console.dialog) (maxDepth : Nat)
    (effects : Bool) : Attends Value (whole env maxDepth effects) :=
  closed_attends.keeps_whole env (closed_attends.hosting env (answering_attends console)) maxDepth
    trivial

end Session

namespace Calculator

open Console

theorem session?_quiet {σ : Type} {c : Calculator σ} {reading : Scan.Reading} {s : Session σ}
    (opened : c.session? reading = .ok s) : s.dialog = c.dialog ∧ s.journal = #[] := by
  rcases reading with ⟨_ | ⟨token, rest⟩, _ | fault⟩ <;> cases opened <;> exact ⟨rfl, rfl⟩

variable {env : Surroundings (List Line)}

theorem run_asks (console : env.dialog = some Console.dialog) (options : EvalOptions)
    (c : Calculator (List Line)) (text : String) {lines : List String}
    (input : c.dialog = lines.map .text) :
    ∃ exchanges left, Asked lines exchanges left (c.run env options text).result ∧
      (c.run env options text).calculator.dialog = left.map .text ∧
      talk (c.run env options text).journal = exchanges.flatMap Exchange.events := by
  unfold run
  cases opened : c.session? (Scan.scan options.rules text) with
  | error fault => exact ⟨[], lines, .nothing lines _, input, rfl⟩
  | ok s =>
      obtain ⟨dialog, journal⟩ := session?_quiet opened
      obtain ⟨exchanges, left, asked, found, shown⟩ :=
        Session.attends_whole console options.maxDepth options.sideEffects s lines
          (dialog.trans input)
      rw [journal] at shown
      exact ⟨exchanges, left, asked, found, shown⟩

/-- A failed evaluation leaves the wording of its error. -/
theorem lastError_evaluate {σ : Type} {env : Surroundings σ} {options : EvalOptions}
    {c : Calculator σ} {text : String} {e : EvalError}
    (failed : (c.evaluate env options text).result = .error e) :
    (c.evaluate env options text).calculator.lastError =
      some (e.shownAs options.legacyMessages) := by
  unfold evaluate at failed ⊢
  simp only at failed ⊢
  split at failed
  · next a found =>
      rw [found] at failed
      cases failed
  · next other found =>
      rw [found] at failed
      cases failed
      rfl

/-- What an evaluation takes from the input is what its questions take. -/
theorem evaluate_asks (console : env.dialog = some Console.dialog) (options : EvalOptions)
    (c : Calculator (List Line)) (text : String) {lines : List String}
    (input : c.dialog = lines.map .text) :
    ∃ exchanges left, Asked lines exchanges left (c.evaluate env options text).result ∧
      (c.evaluate env options text).calculator.dialog = left.map .text ∧
      talk (c.evaluate env options text).journal = exchanges.flatMap Exchange.events := by
  obtain ⟨exchanges, left, asked, dialog, shown⟩ := run_asks console options c text input
  refine ⟨exchanges, left, ?_⟩
  unfold evaluate
  simp only
  split
  · next a found => exact ⟨asked, dialog, shown⟩
  · next e found =>
      refine ⟨asked, dialog, ?_⟩
      -- The entry of the failure is none of the dialog.
      rw [talk_push, shown]
      exact List.append_nil _

end Calculator

end TemplateCalc
