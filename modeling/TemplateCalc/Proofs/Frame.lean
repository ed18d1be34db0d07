import TemplateCalc.Proofs.Walk

/-!
What every evaluation keeps.

A relation between the states before and behind a step is kept by all levels if it is kept by the few
things that a step can do: pass over tokens, write to the journal, draw a random number and, where
effects are allowed, set a variable or ask a question. `Frame` lists these. The steps that keep such a
relation are a class that is closed under what levels do.
-/

set_option autoImplicit false

namespace TemplateCalc.Session

variable {σ α β : Type}

def Keeps (P : Session σ → Session σ → Prop) (m : Eval σ α) : Prop :=
  ∀ s, P s (m s).2

/-- A relation that everything an evaluation can do respects. `allowed` says with which settings of
the effects flag levels are run. -/
structure Frame (P : Session σ → Session σ → Prop) (allowed : Bool → Prop) : Prop where
  refl : ∀ s, P s s
  trans : ∀ {s t u}, P s t → P t u → P s u
  mask : ∀ {effects} other, allowed effects → allowed (effects && other)
  passing : Keeps P advance
  skipping : ∀ branch, Keeps P (skipOperand branch)
  noting : ∀ s event, P s { s with journal := s.journal.push event }
  drawing : ∀ s r, P s { s with random := r }
  setting : allowed true → ∀ s name value, P s { s with vars := s.vars.set name value }
  asking : allowed true → ∀ s d, P s { s with dialog := d }
  sinking : ∀ {s t}, P { s with depth := s.depth + 1 } t → P s { t with depth := t.depth - 1 }

namespace Frame

variable {P : Session σ → Session σ → Prop} {allowed : Bool → Prop}

def Nesting (P : Session σ → Session σ → Prop) (allowed : Bool → Prop) (nested : Nested σ) : Prop :=
  ∀ p effects, allowed effects → Keeps P (nested p effects)

theorem keeps_bind (frame : Frame P allowed) {m : Eval σ α} {f : α → Eval σ β}
    (first : Keeps P m) (second : ∀ a, Keeps P (f a)) : Keeps P (m >>= f) := by
  intro s
  have kept := first s
  rw [run_bind]
  cases outcome : m s with
  | mk result t =>
      rw [outcome] at kept
      cases result with
      | error e => exact kept
      | ok a => exact frame.trans kept (second a t)

theorem keeps_rethrow {m : Eval σ α} (kept : Keeps P m) (change : EvalError → EvalError) :
    Keeps P (tryCatch m fun e => throw (change e)) := by
  intro s
  have kept := kept s
  rw [run_tryCatch]
  cases outcome : m s with
  | mk result t =>
      rw [outcome] at kept
      cases result with
      | error e => exact kept
      | ok a => exact kept

/-- The steps that keep the relation are closed under what levels do. -/
theorem closed (frame : Frame P allowed) : Closed (fun _ m => Keeps P m) allowed where
  mask := frame.mask
  keeps_pure _ := frame.refl
  keeps_throw _ := frame.refl
  keeps_bind := frame.keeps_bind
  keeps_rethrow change _ kept := keeps_rethrow kept change
  keeps_get := frame.refl
  keeps_advance := frame.passing
  keeps_skipOperand := frame.skipping
  keeps_note event _ s := frame.noting s event
  keeps_store {effects} permitted name value := by
    cases effects with
    | false => exact frame.refl
    | true => exact fun s => frame.setting permitted s name value
  keeps_deeper kept s := frame.sinking (kept { s with depth := s.depth + 1 })

/-- A step that reads the state and writes it back changed. -/
theorem keeps_change (frame : Frame P allowed) (change : Session σ → Session σ)
    {next : Session σ → Eval σ α} (changed : ∀ s, P s (change s))
    (rest : ∀ s, Keeps P (next s)) :
    Keeps P (do let s ← get; set (change s); next s) :=
  fun s => frame.trans (changed s) (rest s (change s))

variable (env : Surroundings σ) {effects : Bool}

theorem keeps_ask (frame : Frame P allowed) (permitted : allowed true) (f : Function)
    (kind : QuestionKind) (prompt : String) (question : Dialog σ → σ → Reply α σ) :
    Keeps P (ask env f kind prompt question) := by
  apply frame.keeps_bind fun s => frame.noting s _
  intro _
  split
  · exact frame.closed.keeps_throw _
  · apply frame.keeps_change (fun s => { s with dialog := _ })
    · intro s
      exact frame.asking permitted s _
    · intro s
      apply frame.keeps_bind fun s => frame.noting s _
      intro _
      split
      · exact frame.closed.keeps_pure _
      · exact frame.closed.keeps_throw _

theorem answering (frame : Frame P allowed) : Answering (fun _ m => Keeps P m) allowed env where
  draws _ _ := frame.keeps_change (fun s => { s with random := s.random.next.2 })
    (fun s => frame.drawing s _) fun _ => frame.closed.keeps_pure _
  integer permitted _ _ _ _ := frame.keeps_ask env permitted _ _ _ _
  text permitted _ _ := frame.keeps_ask env permitted _ _ _ _
  choice permitted _ _ _ := frame.keeps_ask env permitted _ _ _ _

theorem hosting (frame : Frame P allowed) : Hosting (fun _ m => Keeps P m) allowed env :=
  frame.closed.hosting env (frame.answering env)

/-- The relation is kept by nested productions, however deep they may nest. -/
theorem nesting (frame : Frame P allowed) (room : Nat) : Nesting P allowed (nest env room) :=
  frame.closed.nesting env (frame.hosting env) room

theorem keeps_whole (frame : Frame P allowed) (maxDepth : Nat) (permitted : allowed effects) :
    Keeps P (whole env maxDepth effects) :=
  frame.closed.keeps_whole env (frame.hosting env) maxDepth permitted

end Frame

end TemplateCalc.Session
