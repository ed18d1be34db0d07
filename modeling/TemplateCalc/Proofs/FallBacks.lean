import TemplateCalc.Session.Operand

/-!
Arguments that functions can handle.

A function that finds no argument where it looks, or one of another type, has a value at hand that
stands in for it. The functions are written here once more, over what becomes of such a reading. The
lenient way takes the value at hand, and gives the functions as they are. The strict way has no use for
it and gives up. On arguments in the right number and of the right types the strict way gives the
same, so that no value ever stands in for an argument.
-/

set_option autoImplicit false

namespace TemplateCalc

/-! ### Numbers and types of arguments -/

namespace Function

def checks (f : Function) (args : List Value) : Bool :=
  args.zipIdx.all fun (v, i) => (f.checkArgument i v).isOk

def handles (f : Function) (args : List Value) : Bool :=
  f.accepts args.length && f.checks args

variable {f : Function} {args : List Value}

theorem isOk_checkArgument (f : Function) (i : Nat) (v : Value) :
    (f.checkArgument i v).isOk = (f.argumentType i).admits v := by
  unfold checkArgument
  cases (f.argumentType i).admits v <;> rfl

theorem checks_nil (f : Function) : f.checks [] = true := rfl

theorem checks_append (f : Function) (args : List Value) (v : Value) :
    f.checks (args ++ [v]) = (f.checks args && (f.checkArgument args.length v).isOk) := by
  rw [checks, List.zipIdx_append, List.all_append]
  simp only [List.zipIdx_singleton, List.all_cons, List.all_nil, Bool.and_true, Nat.zero_add]
  rfl

theorem admits_of_handles (handled : f.handles args = true) {i : Nat} {v : Value}
    (found : args[i]? = some v) : (f.argumentType i).admits v = true := by
  obtain ⟨_, checked⟩ := (Bool.and_eq_true _ _).mp handled
  rw [← isOk_checkArgument]
  exact List.all_eq_true.mp checked (v, i) (List.mk_mem_zipIdx_iff_getElem?.mpr found)

theorem found_of_handles (handled : f.handles args = true) {i : Nat} (required : i < f.arity.1) :
    ∃ v, args[i]? = some v := by
  obtain ⟨accepted, _⟩ := (Bool.and_eq_true _ _).mp handled
  obtain ⟨enough, _⟩ := (Bool.and_eq_true _ _).mp accepted
  have there : i < args.length := Nat.lt_of_lt_of_le required (of_decide_eq_true enough)
  exact ⟨args[i], List.getElem?_eq_getElem there⟩

/-- A type fits a reading if the reading succeeds on all values of the type. -/
def ArgumentType.Fits {α : Type} (t : ArgumentType) (read : Value → Option α) : Prop :=
  ∀ v, t.admits v = true → ∃ a, read v = some a

theorem integer_fits : ArgumentType.integer.Fits Value.int? := by
  intro v admitted
  cases v with
  | int n => exact ⟨n, rfl⟩
  | _ => cases admitted

theorem numeric_fits : ArgumentType.numeric.Fits Value.real? := by
  intro v admitted
  cases v with
  | int n => exact ⟨n.toFloat, rfl⟩
  | real x => exact ⟨x, rfl⟩
  | _ => cases admitted

theorem text_fits : ArgumentType.text.Fits Value.str? := by
  intro v admitted
  cases v with
  | str s => exact ⟨s, rfl⟩
  | _ => cases admitted

end Function

/-! ### Readings -/

structure Coercion (m : Type → Type) where
  orElse : {α : Type} → Option α → α → m α

namespace Coercion

def lenient : Coercion Id where
  orElse found standIn := found.getD standIn

def strict : Coercion Option where
  orElse found _ := found

variable {m : Type → Type} (c : Coercion m) (args : List Value)

def value (position : Nat) : m Value :=
  c.orElse args[position]? .none

def integer (position : Nat) : m Int64 :=
  c.orElse (args[position]?.bind Value.int?) 0

def real (position : Nat) : m Float :=
  c.orElse (args[position]?.bind Value.real?) 0.0

def text (position : Nat) : m String :=
  c.orElse (args[position]?.bind Value.str?) ""

def number (v : Value) : m Float :=
  c.orElse v.real? 0.0

variable [Monad m]

/-- An argument that can be left out. The default is right where it is, and only stands in where it
is not. -/
def optional {α : Type} (read : Value → Option α) (position : Nat) (default : α) : m α :=
  match args[position]? with
  | none => pure default
  | some v => c.orElse (read v) default

def length? (position : Nat) : m (Option Nat) :=
  match args[position]? with
  | none => pure none
  | some v => return some (Strings.count (← c.orElse v.int? 0))

/-! ### Numeric functions -/

def abs : Value → m Value
  | .int n => return .int (if n < 0 then -n else n)
  | v => return .real (← c.number v).abs

def pow (base exponent : Value) : m (Except EvalError Value) :=
  match base, exponent with
  | .int b, .int e => return .ok (.int (Numeric.powInt b e))
  | _, _ => do
    let r := Float.pow (← c.number base) (← c.number exponent)
    return if r.isNaN then .error (.domain .pow) else .ok (.real r)

def sqrt : Value → m (Except EvalError Value)
  | .int n =>
    return if n < 0 then .error (.domain .sqrtNegative)
      else .ok (.int (Int64.ofNat (Numeric.isqrt n.toUInt64)))
  | v => do
    let x ← c.number v
    return if x < 0.0 then .error (.domain .sqrtNegative) else .ok (.real x.sqrt)

def truncate : Value → m Int64
  | .int n => return n
  | .real x => return x.toInt64
  | .bool b => return if b then 1 else 0
  | _ => c.orElse none 0

def best {α : Type} (beats : α → α → Bool) (zero : α) : List α → m α
  | [] => c.orElse none zero
  | a :: rest => return rest.foldl (fun best x => if beats x best then x else best) a

def extreme (beats : Int64 → Int64 → Bool) (beatsReal : Float → Float → Bool) : m Value :=
  match Numeric.allInts? args with
  | some ns => return .int (← c.best beats 0 ns)
  | none => return .real (← c.best beatsReal 0.0 (← args.mapM c.number))

/-! ### Functions -/

variable {σ : Type}

def ofValue (g : Value → m (Eval σ Value)) : m (Eval σ Value) := do
  let v ← c.value args 0
  g v

def ofReal (g : Float → Float) : m (Eval σ Value) := do
  let x ← c.real args 0
  return pure (.real (g x))

def ofText (g : String → Value) : m (Eval σ Value) := do
  let s ← c.text args 0
  return pure (g s)

def ofTexts (g : String → String → Value) : m (Eval σ Value) := do
  let s ← c.text args 0
  let t ← c.text args 1
  return pure (g s t)

def ofTextAndInteger (g : String → Int64 → Value) : m (Eval σ Value) := do
  let s ← c.text args 0
  let n ← c.integer args 1
  return pure (g s n)

def moved (move : Bits.Move) : m (Eval σ Value) := do
  let n ← c.integer args 0
  let amount ← c.optional args Value.int? 1 1
  let size ← c.optional args Value.int? 2 64
  return Session.ofExcept ((Bits.move move n amount size).map .int)

def apply (env : Surroundings σ) (effects : Bool) : Function → m (Eval σ Value)
  | .abs => c.ofValue args fun v => return pure (← c.abs v)
  | .min => do return pure (← c.extreme args (· < ·) (· < ·))
  | .max => do return pure (← c.extreme args (· > ·) (· > ·))
  | .fact => do return Session.ofExcept (Numeric.fact (← c.integer args 0))
  | .pow => do return Session.ofExcept (← c.pow (← c.value args 0) (← c.value args 1))
  | .sqrt => c.ofValue args fun v => return Session.ofExcept (← c.sqrt v)
  | .sin => c.ofReal args Float.sin
  | .cos => c.ofReal args Float.cos
  | .tan => c.ofReal args Float.tan
  | .asin => c.ofReal args Float.asin
  | .acos => c.ofReal args Float.acos
  | .atan => c.ofReal args Float.atan
  | .exp => c.ofReal args Float.exp
  | .log => c.ofReal args Float.log
  | .int => c.ofValue args fun v => return pure (.int (← c.truncate v))
  | .flip => do return pure (.int (Bits.flip (← c.integer args 0) (← c.integer args 1)))
  | .reverse => do
    return pure (.int (Bits.reverse (← c.integer args 0) (← c.optional args Value.int? 1 64)))
  | .rol => c.moved args .rotateLeft
  | .ror => c.moved args .rotateRight
  | .asr => c.moved args .shiftRight
  | .date => c.ofText args fun s => .date ((Calendar.readDate? s).getD Calendar.invalidCount)
  | .time => c.ofText args fun s => .date ((Calendar.readTime? s).getD Calendar.invalidCount)
  | .now => return pure (.date env.now)
  | .year => c.ofReal args fun x => (x * 365.25).round
  | .month => c.ofReal args fun x => (x * 365.25 / 12.0).round
  | .day => c.ofReal args Float.round
  | .hour => c.ofReal args (· / 24.0)
  | .minute => c.ofReal args (· / 1440.0)
  | .second => c.ofReal args (· / 86400.0)
  | .atoi => c.ofText args fun s => .int (Strings.leadingInteger s 10)
  | .atof => c.ofText args fun s => .real (Strings.leadingReal s)
  | .strlen => c.ofText args fun s => .int (Int64.ofNat s.toList.length)
  | .left => c.ofTextAndInteger args fun s n => .str (Strings.left s (Strings.count n))
  | .right => c.ofTextAndInteger args fun s n => .str (Strings.right s (Strings.count n))
  | .mid => do
    let s ← c.text args 0
    let start ← c.integer args 1
    let length ← c.length? args 2
    return pure (.str (Strings.mid s (Strings.count start) length))
  | .ltrim => c.ofText args fun s => .str (Text.trimStart s)
  | .rtrim => c.ofText args fun s => .str (Text.trimEnd s)
  | .strchr => c.ofTextAndInteger args fun s n => .int (Strings.position (Strings.indexOfCode? s n))
  | .strstr =>
    c.ofTexts args fun s t => .int (Strings.position (Strings.indexOf? t.toList s.toList))
  | .strcmp => c.ofTexts args fun s t => .int (Strings.sign (compare s t))
  | .stricmp =>
    c.ofTexts args fun s t =>
      .int (Strings.sign (compare (Text.lowercase s) (Text.lowercase t)))
  | .asc2ebc => c.ofText args fun s => .str (Ebcdic.encode s)
  | .ebc2asc => c.ofText args fun s => .str (Ebcdic.decode s)
  | .rand => return do
    let s ← get
    let (word, random) := s.random.next
    set { s with random := random }
    return .int word.toInt64
  | .get => do
    let address ← c.integer args 0
    let count ← c.integer args 1
    return do
      if 1 ≤ count ∧ count ≤ 8 then
        let bytes ← Session.ofExcept (env.host.readBytes address count.toInt.toNat)
        return .int (Bits.wordOfBytes (bytes.take 8))
      else
        throw (.domain .byteCount)
  | .getInt => do
    let prompt ← c.text args 0
    let initial ← c.optional args Value.int? 1 0
    let least ← c.optional args Value.int? 2 Int64.minValue
    let greatest ← c.optional args Value.int? 3 Int64.maxValue
    return do
      if effects then
        return .int (← Session.ask env .getInt .integer prompt fun d =>
          d.askInteger prompt initial least greatest)
      else
        return .int initial
  | .getString => do
    let prompt ← c.text args 0
    let initial ← c.optional args Value.str? 1 ""
    return do
      if effects then
        return .str (← Session.ask env .getString .text prompt fun d => d.askText prompt initial)
      else
        return .str initial
  | .getBool => do
    let prompt ← c.text args 0
    let yes ← c.optional args Value.str? 1 "Yes"
    let no ← c.optional args Value.str? 2 "No"
    return do
      if effects then
        return .bool (← Session.ask env .getBool .choice prompt fun d => d.askChoice prompt yes no)
      else
        return .bool false

/-! ### The lenient way -/

section Lenient

variable (env : Surroundings σ) (effects : Bool) (args : List Value)

theorem first_eq : args[0]?.getD .none = args.headD .none := by
  cases args <;> rfl

theorem lenient_optional {α : Type} (read : Value → Option α) (i : Nat) (default : α) :
    lenient.optional args read i default = (args[i]?.bind read).getD default := by
  unfold optional
  cases args[i]? <;> rfl

theorem lenient_abs (v : Value) : lenient.abs v = Numeric.abs v := by
  cases v <;> rfl

theorem lenient_pow (base exponent : Value) :
    lenient.pow base exponent = Numeric.pow base exponent := by
  cases base <;> cases exponent <;> rfl

theorem lenient_sqrt (v : Value) : lenient.sqrt v = Numeric.sqrt v := by
  cases v <;> rfl

theorem lenient_truncate (v : Value) : lenient.truncate v = Numeric.truncate v := by
  cases v <;> rfl

theorem lenient_best {α : Type} (beats : α → α → Bool) (zero : α) (list : List α) :
    lenient.best beats zero list = Numeric.best beats zero list := by
  cases list <;> rfl

theorem lenient_numbers : args.mapM lenient.number = args.map fun v => v.real?.getD 0.0 :=
  List.mapM_pure

theorem lenient_length (i : Nat) :
    lenient.length? args i = args[i]?.map fun v => Strings.count (v.int?.getD 0) := by
  unfold length?
  cases args[i]? <;> rfl

theorem lenient_extreme (beats : Int64 → Int64 → Bool) (beatsReal : Float → Float → Bool) :
    lenient.extreme args beats beatsReal =
      match Numeric.allInts? args with
      | some ns => .int (Numeric.best beats 0 ns)
      | none => .real (Numeric.best beatsReal 0.0 (args.map fun v => v.real?.getD 0.0)) := by
  unfold extreme
  split
  · exact congrArg Value.int (lenient_best beats 0 _)
  · rw [lenient_numbers]
    exact congrArg Value.real (lenient_best beatsReal 0.0 _)

theorem lenient_ofValue (g : Value → Id (Eval σ Value)) :
    lenient.ofValue args g = g (args.headD .none) := by
  rw [← first_eq]
  rfl

/-- The lenient way gives the functions as they are. -/
theorem lenient_apply (f : Function) :
    lenient.apply args env effects f = Session.applyFunction env effects f args := by
  cases f with
  | abs =>
      rw [apply, lenient_ofValue, lenient_abs]
      rfl
  | min | max =>
      rw [apply, lenient_extreme]
      rfl
  | pow =>
      change Session.ofExcept (lenient.pow (args[0]?.getD .none) (args.getD 1 .none)) =
        Session.ofExcept (Numeric.pow (args.headD .none) (args.getD 1 .none))
      rw [lenient_pow, first_eq]
  | sqrt =>
      rw [apply, lenient_ofValue, lenient_sqrt]
      rfl
  | int =>
      rw [apply, lenient_ofValue, lenient_truncate]
      rfl
  | mid =>
      rw [apply, lenient_length]
      rfl
  | reverse =>
      rw [apply, lenient_optional]
      rfl
  | rol | ror | asr =>
      rw [apply, moved, lenient_optional, lenient_optional]
      rfl
  | getInt =>
      rw [apply, lenient_optional, lenient_optional, lenient_optional]
      rfl
  | getString =>
      rw [apply, lenient_optional]
      rfl
  | getBool =>
      rw [apply, lenient_optional, lenient_optional]
      rfl
  | _ => rfl

end Lenient

/-! ### The strict way -/

section Strict

variable {args : List Value}

theorem strict_abs {v : Value} (numeric : Function.ArgumentType.numeric.admits v = true) :
    strict.abs v = some (Numeric.abs v) := by
  cases v with
  | int n => rfl
  | real x => rfl
  | _ => cases numeric

theorem strict_pow {base exponent : Value}
    (numeric : Function.ArgumentType.numeric.admits base = true)
    (numeric' : Function.ArgumentType.numeric.admits exponent = true) :
    strict.pow base exponent = some (Numeric.pow base exponent) := by
  cases base with
  | int b =>
      cases exponent with
      | int e => rfl
      | real y => rfl
      | _ => cases numeric'
  | real x =>
      cases exponent with
      | int e => rfl
      | real y => rfl
      | _ => cases numeric'
  | _ => cases numeric

theorem strict_sqrt {v : Value} (numeric : Function.ArgumentType.numeric.admits v = true) :
    strict.sqrt v = some (Numeric.sqrt v) := by
  cases v with
  | int n => rfl
  | real x => rfl
  | _ => cases numeric

theorem strict_truncate {v : Value}
    (admitted : Function.ArgumentType.numericOrBool.admits v = true) :
    strict.truncate v = some (Numeric.truncate v) := by
  cases v with
  | int n => rfl
  | real x => rfl
  | bool b => rfl
  | _ => cases admitted

theorem strict_best {α : Type} (beats : α → α → Bool) (zero : α) {list : List α}
    (given : list ≠ []) : strict.best beats zero list = some (Numeric.best beats zero list) := by
  cases list with
  | nil => contradiction
  | cons a rest => rfl

theorem strict_numbers (numeric : ∀ v ∈ args, Function.ArgumentType.numeric.admits v = true) :
    args.mapM strict.number = some (args.map fun v => v.real?.getD 0.0) := by
  induction args with
  | nil => rfl
  | cons v rest ih =>
      obtain ⟨x, readable⟩ := Function.numeric_fits v (numeric v List.mem_cons_self)
      rw [List.mapM_cons, ih fun w member => numeric w (List.mem_cons_of_mem v member), number,
        List.map_cons, readable]
      rfl

theorem allInts_ne_nil {ns : List Int64} (given : args ≠ [])
    (all : Numeric.allInts? args = some ns) : ns ≠ [] := by
  rintro rfl
  cases args with
  | nil => contradiction
  | cons v rest =>
      rw [Numeric.allInts?, List.mapM_cons] at all
      obtain ⟨n, _, others⟩ := Option.bind_eq_some_iff.mp all
      obtain ⟨ns, _, impossible⟩ := Option.bind_eq_some_iff.mp others
      cases impossible

theorem strict_extreme (beats : Int64 → Int64 → Bool) (beatsReal : Float → Float → Bool)
    (given : args ≠ []) (numeric : ∀ v ∈ args, Function.ArgumentType.numeric.admits v = true) :
    strict.extreme args beats beatsReal =
      some (match Numeric.allInts? args with
        | some ns => .int (Numeric.best beats 0 ns)
        | none => .real (Numeric.best beatsReal 0.0 (args.map fun v => v.real?.getD 0.0))) := by
  unfold extreme
  split
  · rename_i ns all
    rw [strict_best beats 0 (allInts_ne_nil given all)]
    rfl
  · rw [strict_numbers numeric]
    change (do return Value.real (← strict.best beatsReal 0.0 (args.map _))) = _
    rw [strict_best beatsReal 0.0 (by simpa using given)]
    rfl

variable {f : Function} (handled : f.handles args = true)

include handled

theorem strict_value {i : Nat} (required : i < f.arity.1) :
    strict.value args i = some (args[i]?.getD .none) ∧
      (f.argumentType i).admits (args[i]?.getD .none) = true := by
  obtain ⟨v, found⟩ := Function.found_of_handles handled required
  rw [value, found]
  exact ⟨rfl, Function.admits_of_handles handled found⟩

theorem strict_required {α : Type} {read : Value → Option α} {i : Nat}
    (required : i < f.arity.1) (fits : (f.argumentType i).Fits read) (default : α) :
    args[i]?.bind read = some ((args[i]?.bind read).getD default) := by
  obtain ⟨v, found⟩ := Function.found_of_handles handled required
  obtain ⟨a, readable⟩ := fits v (Function.admits_of_handles handled found)
  rw [found, Option.bind_some, readable]
  rfl

theorem strict_integer {i : Nat} (required : i < f.arity.1) (typed : f.argumentType i = .integer) :
    strict.integer args i = some (Function.intArg args i 0) :=
  strict_required handled required (typed ▸ Function.integer_fits) 0

theorem strict_real {i : Nat} (required : i < f.arity.1) (typed : f.argumentType i = .numeric) :
    strict.real args i = some (Function.realArg args i) :=
  strict_required handled required (typed ▸ Function.numeric_fits) 0.0

theorem strict_text {i : Nat} (required : i < f.arity.1) (typed : f.argumentType i = .text) :
    strict.text args i = some (Function.textArg args i "") :=
  strict_required handled required (typed ▸ Function.text_fits) ""

theorem strict_optional {α : Type} {read : Value → Option α} {i : Nat}
    (fits : (f.argumentType i).Fits read) (default : α) :
    strict.optional args read i default = some ((args[i]?.bind read).getD default) := by
  unfold optional
  cases found : args[i]? with
  | none => rfl
  | some v =>
      obtain ⟨a, readable⟩ := fits v (Function.admits_of_handles handled found)
      rw [Option.bind_some, readable]
      exact readable

theorem strict_optionalInteger {i : Nat} (typed : f.argumentType i = .integer) (default : Int64) :
    strict.optional args Value.int? i default = some (Function.intArg args i default) :=
  strict_optional handled (typed ▸ Function.integer_fits) default

theorem strict_optionalText {i : Nat} (typed : f.argumentType i = .text) (default : String) :
    strict.optional args Value.str? i default = some (Function.textArg args i default) :=
  strict_optional handled (typed ▸ Function.text_fits) default

theorem strict_length {i : Nat} (typed : f.argumentType i = .integer) :
    strict.length? args i = some (args[i]?.map fun v => Strings.count (v.int?.getD 0)) := by
  unfold length?
  cases found : args[i]? with
  | none => rfl
  | some v =>
      have admitted := Function.admits_of_handles handled found
      rw [typed] at admitted
      obtain ⟨n, readable⟩ := Function.integer_fits v admitted
      simp only [Option.map_some, readable]
      rfl

theorem strict_ofValue (required : 0 < f.arity.1) {g : Value → Option (Eval σ Value)}
    (h : Value → Eval σ Value)
    (agree : ∀ v, (f.argumentType 0).admits v = true → g v = some (h v)) :
    strict.ofValue args g = some (h (args.headD .none)) := by
  obtain ⟨there, admitted⟩ := strict_value handled required
  rw [ofValue, there, ← first_eq]
  exact agree _ admitted

theorem strict_ofReal (required : 0 < f.arity.1) (typed : f.argumentType 0 = .numeric)
    (g : Float → Float) :
    strict.ofReal args g =
      some (pure (.real (g (Function.realArg args 0))) : Eval σ Value) := by
  rw [ofReal, strict_real handled required typed]
  rfl

theorem strict_ofText (required : 0 < f.arity.1) (typed : f.argumentType 0 = .text)
    (g : String → Value) :
    strict.ofText args g = some (pure (g (Function.textArg args 0 "")) : Eval σ Value) := by
  rw [ofText, strict_text handled required typed]
  rfl

theorem strict_ofTexts (required : 1 < f.arity.1) (typed : ∀ i, f.argumentType i = .text)
    (g : String → String → Value) :
    strict.ofTexts args g =
      some (pure (g (Function.textArg args 0 "") (Function.textArg args 1 "")) : Eval σ Value) := by
  rw [ofTexts, strict_text handled (by omega) (typed 0), strict_text handled required (typed 1)]
  rfl

theorem strict_ofTextAndInteger (required : 1 < f.arity.1) (typed : f.argumentType 0 = .text)
    (typed' : f.argumentType 1 = .integer) (g : String → Int64 → Value) :
    strict.ofTextAndInteger args g =
      some (pure (g (Function.textArg args 0 "") (Function.intArg args 1 0)) : Eval σ Value) := by
  rw [ofTextAndInteger, strict_text handled (by omega) typed,
    strict_integer handled required typed']
  rfl

theorem strict_moved (required : 0 < f.arity.1) (typed : ∀ i, f.argumentType i = .integer)
    (move : Bits.Move) :
    strict.moved args move =
      some (Session.ofExcept ((Bits.move move (Function.intArg args 0 0)
        (Function.intArg args 1 1) (Function.intArg args 2 64)).map .int) : Eval σ Value) := by
  rw [moved, strict_integer handled required (typed 0), strict_optionalInteger handled (typed 1),
    strict_optionalInteger handled (typed 2)]
  rfl

theorem numeric_of_handles (typed : ∀ i, f.argumentType i = .numeric) :
    ∀ v ∈ args, Function.ArgumentType.numeric.admits v = true := by
  intro v member
  obtain ⟨i, found⟩ := List.mem_iff_getElem?.mp member
  rw [← typed i]
  exact Function.admits_of_handles handled found

theorem ne_nil_of_handles (required : 0 < f.arity.1) : args ≠ [] := by
  obtain ⟨v, found⟩ := Function.found_of_handles handled required
  rintro rfl
  cases found

/-- On arguments that a function can handle, nothing stands in for an argument. -/
theorem strict_apply (env : Surroundings σ) (effects : Bool) :
    strict.apply args env effects f = some (Session.applyFunction env effects f args) := by
  cases f with
  | abs =>
      apply strict_ofValue handled (by decide) fun v => pure (Numeric.abs v)
      intro v numeric
      rw [strict_abs numeric]
      rfl
  | min | max =>
      rw [apply, strict_extreme _ _ (ne_nil_of_handles handled (by decide))
        (numeric_of_handles handled fun _ => rfl)]
      rfl
  | fact =>
      rw [apply, strict_integer handled (by decide) rfl]
      rfl
  | pow =>
      obtain ⟨there, numeric⟩ := strict_value handled (i := 0) (by decide)
      obtain ⟨there', numeric'⟩ := strict_value handled (i := 1) (by decide)
      rw [apply, there, there']
      rw [first_eq] at numeric ⊢
      change (do return (Session.ofExcept (← strict.pow (args.headD .none) _) : Eval σ Value)) = _
      rw [strict_pow numeric numeric']
      rfl
  | sqrt =>
      apply strict_ofValue handled (by decide) fun v => Session.ofExcept (Numeric.sqrt v)
      intro v numeric
      rw [strict_sqrt numeric]
      rfl
  | int =>
      apply strict_ofValue handled (by decide) fun v => pure (.int (Numeric.truncate v))
      intro v admitted
      rw [strict_truncate admitted]
      rfl
  -- functions of one kind fall back in one way, so one lemma settles each kind
  | sin | cos | tan | asin | acos | atan | exp | log | year | month | day | hour | minute | second =>
      exact strict_ofReal handled (by decide) rfl _
  | date | time | atoi | atof | strlen | ltrim | rtrim | asc2ebc | ebc2asc =>
      exact strict_ofText handled (by decide) rfl _
  | strstr | strcmp | stricmp => exact strict_ofTexts handled (by decide) (fun _ => rfl) _
  | left | right | strchr => exact strict_ofTextAndInteger handled (by decide) rfl rfl _
  | rol | ror | asr => exact strict_moved handled (by decide) (fun _ => rfl) _
  | flip =>
      rw [apply, strict_integer handled (by decide) rfl, strict_integer handled (by decide) rfl]
      rfl
  | reverse =>
      rw [apply, strict_integer handled (by decide) rfl, strict_optionalInteger handled rfl]
      rfl
  | mid =>
      rw [apply, strict_text handled (by decide) rfl, strict_integer handled (by decide) rfl,
        strict_length handled rfl]
      rfl
  -- these two read no argument
  | now | rand => rfl
  | get =>
      rw [apply, strict_integer handled (by decide) rfl, strict_integer handled (by decide) rfl]
      rfl
  | getInt =>
      rw [apply, strict_text handled (by decide) rfl, strict_optionalInteger handled rfl,
        strict_optionalInteger handled rfl, strict_optionalInteger handled rfl]
      rfl
  | getString =>
      rw [apply, strict_text handled (by decide) rfl, strict_optionalText handled rfl]
      rfl
  | getBool =>
      rw [apply, strict_text handled (by decide) rfl, strict_optionalText handled rfl,
        strict_optionalText handled rfl]
      rfl

end Strict

end Coercion

end TemplateCalc
