import TemplateCalc.Proofs.Depth
import TemplateCalc.Proofs.Path.Inquiry

/-!
Inquiries agree with values.

Main statement: if a path has a value, it is the value of one symbol, which the host gives for the
steps of the path, and the inquiries about the path answer with the size, the address and the text of
this symbol. If neither the host nor a variable has the name in front of the path, the path has no
value, and nothing is defined there.
-/

set_option autoImplicit false

namespace TemplateCalc

/-! ### Texts of inquiries -/

namespace Scan

variable {rules : Rules} {afterOperand : Bool} {tokens : List Token} {fault : Option LexicalFault}

theorem reads_inquiry (i : Inquiry) {d : Char} (ends : endsToken d = true) {more : List Char}
    (behind : Reads rules true (d :: more) tokens fault) :
    Reads rules afterOperand (i.name.toList ++ d :: more) (.word i.name :: tokens) fault := by
  have isWhole : isName i.name.toList = true := by cases i <;> decide +kernel
  have noNumber (radix : Nat) : wordIsNumber radix (i.name.toList ++ d :: more) = false := by
    have keyword : isKeyword (String.ofList
        ((i.name.toList.takeWhile Text.isNameChar).map Char.toLower)) = true := by
      cases i <;> decide +kernel
    rw [wordIsNumber_append ends]
    simp only [wordIsNumber, keyword, Bool.not_true, Bool.and_false]
  have separate : EndsName (d :: more) := by
    rintro _ _ ⟨⟩
    exact ⟨not_isNameChar_of_endsToken ends, ne_of_endsToken ends (by decide)⟩
  have reads := Reads.word isWhole separate (fun _ => noNumber rules.radix) behind afterOperand
  rwa [String.ofList_toList] at reads

/-- A text that starts with a word is read in the same way behind an operand. -/
theorem Reads.of_word {word : String} {cs : List Char}
    (reads : Reads rules false cs (.word word :: tokens) fault) :
    Reads rules afterOperand cs (.word word :: tokens) fault := by
  cases reads with
  | @token _ _ rest behind c _ _ _ more read others =>
      cases afterOperand with
      | false => exact .token more read others
      | true =>
          refine .token more ?_ others
          by_cases point : (c == '.' && startsWith Char.isDigit rest) = true
          · -- a point in front of a digit would have started a number
            rw [Bool.and_eq_true] at point
            have isNumber : tokenFrom rules false c rest = number rules (c :: rest) := by
              rw [tokenFrom, point.1, point.2]
              simp
            rw [isNumber] at read
            rcases isNumber_number read with ⟨_, impossible⟩ | ⟨_, impossible⟩ <;>
              cases impossible
          · rw [tokenFrom] at read ⊢
            have noPoint : (c == '.' && !false && startsWith Char.isDigit rest) = false := by
              simpa using point
            rw [noPoint] at read
            simpa using read

variable {path : String}

theorem scan_inquiry (i : Inquiry) (scanned : scan rules path = ⟨tokens, none⟩) :
    scan rules (i.name ++ "(" ++ path ++ ")") =
      ⟨.word i.name :: .openParen :: (tokens ++ [.closeParen]), none⟩ := by
  have inside := scan_reads rules path
  rw [scanned] at inside
  apply scan_of_reads
  have text : (i.name ++ "(" ++ path ++ ")").toList =
      i.name.toList ++ '(' :: (path.toList ++ [')']) := by
    simp
  rw [text]
  apply reads_inquiry i (by decide)
  apply Reads.cons (by decide) fun _ _ => rfl
  apply inside.cut (by decide) (.inr rfl)
  exact .cons (by decide) (fun _ _ => rfl) (.finish rfl)

theorem scan_defined {word : String} (scanned : scan rules path = ⟨.word word :: tokens, none⟩) :
    scan rules ("defined " ++ path) =
      ⟨.word Inquiry.defined.name :: .word word :: tokens, none⟩ := by
  have inside := scan_reads rules path
  rw [scanned] at inside
  apply scan_of_reads
  have text : ("defined " ++ path).toList =
      Inquiry.defined.name.toList ++ ' ' :: path.toList := by
    simp [Inquiry.name]
  rw [text]
  exact reads_inquiry .defined (by decide) inside.of_word.space

end Scan

namespace Calculator

open Session

variable {σ : Type} {env : Surroundings σ} {options : EvalOptions} {c : Calculator σ}
  {path : String} {x : Variable} {hops : List Hop} {last : Symbol}

/-- Three levels are enough for every path and every inquiry about one. -/
theorem exists_room (enough : 3 ≤ options.maxDepth) :
    ∃ room, options.maxDepth = room + 1 ∧ ∀ hop : Hop, hop.room ≤ room :=
  ⟨options.maxDepth - 1, by omega, fun hop => Nat.le_trans hop.room_le (by omega)⟩

/-- An inquiry about a path whose end names a subject. -/
theorem result_of_inquiry {room : Nat} {found : Subject} {tokens : List Token}
    (limit : options.maxDepth = room + 1) (scanned : Scan.scan options.rules path = ⟨tokens, none⟩)
    (names : ∀ (more : List Token) (s : Session σ), At (tokens ++ more) s → s.vars = c.vars →
      endsPath (more.headD .finish) = true → Names env room options.sideEffects found more s)
    (i : Inquiry) :
    (c.evaluate env options (i.name ++ "(" ++ path ++ ")")).result = answer i found := by
  rw [result_of_scan (Scan.scan_inquiry i scanned), limit]
  exact whole_of_inquiry i (c.at_opening _ _) fun t inside sameVars =>
    names [.closeParen] t inside sameVars rfl

theorem result_of_defined {room : Nat} {found : Subject} {word : String} {tokens : List Token}
    (limit : options.maxDepth = room + 1)
    (scanned : Scan.scan options.rules path = ⟨.word word :: tokens, none⟩)
    (names : ∀ (more : List Token) (s : Session σ), At (.word word :: tokens ++ more) s →
      s.vars = c.vars → endsPath (more.headD .finish) = true →
      Names env room options.sideEffects found more s) :
    (c.evaluate env options ("defined " ++ path)).result = answer .defined found := by
  rw [result_of_scan (Scan.scan_defined scanned), limit]
  apply whole_of_defined (c.at_opening _ _) Token.noConfusion
  intro t inside sameVars
  rw [← List.append_nil (.word word :: tokens)] at inside
  exact names [] t inside sameVars rfl

section Path

variable (scanned : Scan.scan options.rules path = ⟨.word x.name :: pathTokens hops, none⟩)
  (unbound : c.vars.get? x.name = none) (enough : 3 ≤ options.maxDepth)
include scanned unbound enough

/-- The answers of all inquiries about a path that leads to a symbol. -/
theorem inquiries_of_leads {base : Symbol} (known : env.host.resolve x.name none 0 = some base)
    (leads : Leads env.host base hops last) :
    (∀ i : Inquiry, (c.evaluate env options (i.name ++ "(" ++ path ++ ")")).result =
        answer i (.symbol last)) ∧
      (c.evaluate env options ("defined " ++ path)).result = .ok (.bool true) := by
  obtain ⟨room, limit, roomy⟩ := exists_room enough
  have names (more : List Token) (s : Session σ)
      (inside : At (.word x.name :: pathTokens hops ++ more) s) (sameVars : s.vars = c.vars)
      (ends : endsPath (more.headD .finish) = true) :
      Names env room options.sideEffects (.symbol last) more s := by
    have arrives : Arrives env room x hops last more s :=
      ⟨inside, by rw [sameVars, unbound], ⟨base, known, leads⟩, fun hop _ => roomy hop⟩
    exact arrives.names ends options.sideEffects
  exact ⟨result_of_inquiry limit scanned names, result_of_defined limit scanned names⟩

/-- A path that has a value leads to a symbol with this value. -/
theorem leads_of_value {base : Symbol} {value : Value}
    (known : env.host.resolve x.name none 0 = some base)
    (noText : ∀ front index back symbol, hops = front ++ .element index :: back →
      env.host.reach x.name front = some symbol → ∀ text, symbol.value ≠ .str text)
    (succeeds : (c.evaluate env options path).result = .ok value) :
    ∃ last, Leads env.host base hops last ∧ last.value = value := by
  obtain ⟨room, limit, roomy⟩ := exists_room enough
  rw [result_of_scan scanned, limit] at succeeds
  refine leads_of_whole (c.at_opening _ _) unbound known (fun hop _ => roomy hop) ?_ succeeds
  intro front index back symbol isPath leads
  exact noText front index back symbol isPath (leads.reach known)

section Unknown

variable (unresolved : env.host.resolve x.name none 0 = none)
  (unboundElement : c.vars.get? (variableName x.name hops) = none)
include unresolved unboundElement

/-- A path behind a name that nothing has fails, also in an inquiry about its size. -/
theorem failures_of_unknown :
    (c.evaluate env options path).result =
        .error (.symbol (.unknown (variableName x.name hops))) ∧
      ∃ e, (c.evaluate env options (Inquiry.sizeof.name ++ "(" ++ path ++ ")")).result =
        .error e := by
  obtain ⟨room, limit, roomy⟩ := exists_room enough
  have unknown (more : List Token) (s : Session σ)
      (met : At (.word x.name :: (pathTokens hops ++ more)) s) (sameVars : s.vars = c.vars) :
      Unknown env room x hops more s :=
    ⟨met, unresolved, by rw [sameVars, unbound], by rw [sameVars, unboundElement],
      fun hop _ => roomy hop⟩
  constructor
  · have met : At (.word x.name :: (pathTokens hops ++ []))
        (c.opening (.word x.name) (pathTokens hops)) := by
      rw [List.append_nil]
      exact c.at_opening _ _
    rw [result_of_scan scanned, limit]
    exact (unknown [] _ met rfl).whole_error options.sideEffects
  · rw [result_of_scan (Scan.scan_inquiry .sizeof scanned), limit]
    have names (t : Session σ)
        (inside : At (.word x.name :: (pathTokens hops ++ [.closeParen])) t)
        (sameVars : t.vars = c.vars) :
        Names env room options.sideEffects (.missing (variableName x.name hops))
          (pathTokens (behindVariable hops) ++ [.closeParen]) t :=
      (unknown [.closeParen] t inside sameVars).names Token.noConfusion options.sideEffects
    cases behind : behindVariable hops with
    | nil =>
        rw [behind] at names
        exact ⟨_, whole_of_inquiry .sizeof (c.at_opening _ _) names⟩
    | cons hop rest =>
        rw [behind] at names
        refine ⟨_, whole_of_unclosed .sizeof (c.at_opening _ _) names ?_⟩
        cases hop <;> rfl

/-- Neither a name that nothing has nor its first element is defined. -/
theorem undefined_of_unknown (short : behindVariable hops = []) :
    (c.evaluate env options (Inquiry.defined.name ++ "(" ++ path ++ ")")).result =
        .ok (.bool false) ∧
      (c.evaluate env options ("defined " ++ path)).result = .ok (.bool false) := by
  obtain ⟨room, limit, roomy⟩ := exists_room enough
  have names (more : List Token) (s : Session σ)
      (inside : At (.word x.name :: pathTokens hops ++ more) s) (sameVars : s.vars = c.vars)
      (ends : endsPath (more.headD .finish) = true) :
      Names env room options.sideEffects (.missing (variableName x.name hops)) more s := by
    have unknown : Unknown env room x hops more s :=
      ⟨inside, unresolved, by rw [sameVars, unbound], by rw [sameVars, unboundElement],
        fun hop _ => roomy hop⟩
    have noIndex : more.headD .finish ≠ .openBracket := by
      intro viewed
      rw [viewed] at ends
      cases ends
    have names := unknown.names noIndex options.sideEffects
    rw [short] at names
    exact names
  exact ⟨result_of_inquiry limit scanned names .defined, result_of_defined limit scanned names⟩

end Unknown

end Path

theorem evaluate_ok_more_room {text : String} {value : Value} {depth : Nat}
    (more : options.maxDepth ≤ depth)
    (succeeds : (c.evaluate env options text).result = .ok value) :
    (c.evaluate env { options with maxDepth := depth } text).result = .ok value := by
  have within : (c.evaluate env options text).result ≠ .error .tooComplex := by
    rw [succeeds]
    intro impossible
    cases impossible
  rw [(evaluate_more_room env more within).1, succeeds]

/-- A text that fails where there is room enough has no value anywhere. -/
theorem result_ne_ok {text : String}
    (fails : ∃ e, (c.evaluate env { options with maxDepth := max options.maxDepth 3 } text).result =
      .error e) (value : Value) : (c.evaluate env options text).result ≠ .ok value := by
  intro succeeds
  obtain ⟨e, failed⟩ := fails
  rw [evaluate_ok_more_room (Nat.le_max_left _ _) succeeds] at failed
  cases failed

theorem unbound_variableName (unbound : c.vars.get? x.name = none)
    (unboundElement : ∀ index rest, hops = .element index :: rest →
      c.vars.get? (elementName x.name index.value) = none) :
    c.vars.get? (variableName x.name hops) = none := by
  rcases hops with _ | ⟨_ | index, rest⟩
  · exact unbound
  · exact unbound
  · exact unboundElement index rest rfl

/-- A name that is no variable, with members and elements behind it, has a value only if the host
gives one symbol for it, and with enough room all inquiries answer from this symbol. Where the host
does not know the name, neither is its first element a variable. -/
theorem value_and_inquiries_agree (env : Surroundings σ) (options : EvalOptions)
    (c : Calculator σ) (x : Variable) (hops : List Hop) (path : String)
    (written : Scan.scan options.rules path = ⟨.word x.name :: pathTokens hops, none⟩)
    (unbound : c.vars.get? x.name = none)
    (unboundElement : env.host.resolve x.name none 0 = none →
      ∀ index rest, hops = .element index :: rest →
        c.vars.get? (elementName x.name index.value) = none)
    (noText : ∀ front index back symbol, hops = front ++ .element index :: back →
      env.host.reach x.name front = some symbol → ∀ text, symbol.value ≠ .str text) :
    (∀ value, (c.evaluate env options path).result = .ok value →
      ∃ symbol, env.host.reach x.name hops = some symbol ∧ symbol.value = value ∧
        ∀ depth, 3 ≤ depth →
          let answer (text : String) :=
            (c.evaluate env { options with maxDepth := depth } text).result
          answer ("sizeof" ++ "(" ++ path ++ ")") = .ok (.int symbol.size) ∧
          answer ("addressof" ++ "(" ++ path ++ ")") = .ok (.int symbol.address) ∧
          answer ("string" ++ "(" ++ path ++ ")") = .ok (.str symbol.text) ∧
          answer ("defined" ++ "(" ++ path ++ ")") = .ok (.bool true) ∧
          answer ("defined " ++ path) = .ok (.bool true)) ∧
    (env.host.resolve x.name none 0 = none →
      (∀ value, (c.evaluate env options path).result ≠ .ok value ∧
        (c.evaluate env options ("sizeof" ++ "(" ++ path ++ ")")).result ≠ .ok value) ∧
      ∀ front asked, Scan.scan options.rules front = ⟨.word x.name :: pathTokens asked, none⟩ →
        asked = [] ∨ (∃ index rest, hops = .element index :: rest ∧ asked = [.element index]) →
        ∀ depth, 3 ≤ depth →
          let answer (text : String) :=
            (c.evaluate env { options with maxDepth := depth } text).result
          answer ("defined" ++ "(" ++ front ++ ")") = .ok (.bool false) ∧
          answer ("defined " ++ front) = .ok (.bool false)) := by
  have roomy : 3 ≤ max options.maxDepth 3 := Nat.le_max_right _ _
  constructor
  · intro value succeeds
    -- with more levels the value stays, so three of them can be assumed
    have more := evaluate_ok_more_room (Nat.le_max_left options.maxDepth 3) succeeds
    cases known : env.host.resolve x.name none 0 with
    | none =>
        have unboundName := unbound_variableName unbound (unboundElement known)
        obtain ⟨failed, _⟩ := @failures_of_unknown _ env
          { options with maxDepth := max options.maxDepth 3 } _ _ _ _ written unbound roomy known
          unboundName
        rw [failed] at more
        cases more
    | some base =>
        obtain ⟨last, leads, isValue⟩ := @leads_of_value _ env
          { options with maxDepth := max options.maxDepth 3 } _ _ _ _ written unbound roomy _ _ known
          noText more
        refine ⟨last, leads.reach known, isValue, fun depth enough => ?_⟩
        obtain ⟨inParens, bare⟩ := @inquiries_of_leads _ env { options with maxDepth := depth } _ _ _
          _ _ written unbound enough _ known leads
        exact ⟨inParens .sizeof, inParens .addressof, inParens .string, inParens .defined, bare⟩
  · intro unresolved
    have unboundName := unbound_variableName unbound (unboundElement unresolved)
    constructor
    · obtain ⟨failed, failed'⟩ := @failures_of_unknown _ env
        { options with maxDepth := max options.maxDepth 3 } _ _ _ _ written unbound roomy unresolved
        unboundName
      exact fun value => ⟨result_ne_ok ⟨_, failed⟩ value, result_ne_ok failed' value⟩
    · intro front asked scanned short depth enough
      have first : c.vars.get? (variableName x.name asked) = none ∧ behindVariable asked = [] := by
        rcases short with rfl | ⟨index, rest, rfl, rfl⟩
        · exact ⟨unbound, rfl⟩
        · exact ⟨unboundElement unresolved index rest rfl, rfl⟩
      exact @undefined_of_unknown _ env { options with maxDepth := depth } _ _ _ _ scanned unbound
        enough unresolved first.1 first.2

/-- The second element of an array in a struct, and an element of a name that nothing has. -/
theorem inquiries_about_members :
    let elements : List Symbol := [⟨.int 7, 4, 100, "7"⟩, ⟨.int 8, 4, 104, "eight"⟩]
    let table := (({} : SymbolTable).defineContainer "list" (SymbolTable.arraySymbol 100 elements)
      (.elements elements)).defineContainer "record"
        (SymbolTable.structSymbol 96 [("list", SymbolTable.arraySymbol 100 elements)])
        (.members [("list", SymbolTable.arraySymbol 100 elements)])
    let env : Surroundings Unit := ⟨table.host, none, 0⟩
    let c : Calculator Unit :=
      { random := Random.ofSeed 0, dialog := (), vars := ⟨[("n", .int 3)]⟩ }
    (c.evaluate env { maxDepth := 8 } "record.list[1]").result = .ok (.int 8) ∧
      (c.evaluate env { maxDepth := 8 } "sizeof(record.list[1])").result = .ok (.int 4) ∧
      (c.evaluate env { maxDepth := 8 } "addressof(record.list[1])").result = .ok (.int 104) ∧
      (c.evaluate env { maxDepth := 8 } "string(record.list[1])").result = .ok (.str "eight") ∧
      (c.evaluate env { maxDepth := 8 } "defined record.list[1]").result = .ok (.bool true) ∧
      (∀ value, (c.evaluate env { maxDepth := 8 } "other[-3].list").result ≠ .ok value) ∧
      (c.evaluate env { maxDepth := 8 } "defined(other[-3])").result = .ok (.bool false) := by
  intro elements table env c
  obtain ⟨values, _⟩ := value_and_inquiries_agree env { maxDepth := 8 } c
    ⟨"record", by decide, by decide +kernel⟩ [.member "list", .element ⟨false, 1⟩] "record.list[1]"
    rfl rfl (fun impossible => by cases impossible) (by
      intro front index back symbol isPath reached text
      rcases front with _ | ⟨hop, _ | ⟨_, front⟩⟩
      · cases isPath
      · cases isPath
        cases reached
        exact Value.noConfusion
      · have lengths := congrArg List.length isPath
        simp only [List.length_cons, List.length_append, List.length_nil] at lengths
        omega)
  have computed : (c.evaluate env { maxDepth := 8 } "record.list[1]").result = .ok (.int 8) :=
    eq_of_isInt (by decide +kernel)
  obtain ⟨symbol, reached, _, answers⟩ := values _ computed
  obtain ⟨size, address, text, _, isDefined⟩ := answers 8 (by decide)
  cases reached
  obtain ⟨_, missing⟩ := value_and_inquiries_agree env { maxDepth := 8 } c
    ⟨"other", by decide, by decide +kernel⟩ [.element ⟨true, 3⟩, .member "list"] "other[-3].list"
    rfl rfl (fun _ index rest isPath => by cases isPath; rfl)
    (fun front _ _ symbol _ reached => by cases reached)
  obtain ⟨noValue, noFront⟩ := missing rfl
  obtain ⟨undefined, _⟩ := noFront "other[-3]" [.element ⟨true, 3⟩] rfl (.inr ⟨_, _, rfl, rfl⟩) 8
    (by decide)
  exact ⟨computed, size, address, text, isDefined, fun value => (noValue value).1, undefined⟩

/-- An element can be a variable without the name in front of it being one. It then has a value, but
there is no symbol. -/
theorem element_variable_has_no_symbol :
    let env : Surroundings Unit := ⟨Host.none, none, 0⟩
    let c : Calculator Unit :=
      { random := Random.ofSeed 0, dialog := (), vars := ⟨[("a[3]", .int 5)]⟩ }
    c.vars.get? "a" = none ∧
      Scan.scan ({} : EvalOptions).rules "a[3]" =
        ⟨.word "a" :: pathTokens [.element ⟨false, 3⟩], none⟩ ∧
      (c.evaluate env {} "a[3]").result = .ok (.int 5) ∧
      ∀ symbol, env.host.reach "a" [.element ⟨false, 3⟩] ≠ some symbol :=
  ⟨rfl, rfl, eq_of_isInt (by decide +kernel), fun _ impossible => by cases impossible⟩

end Calculator

end TemplateCalc
