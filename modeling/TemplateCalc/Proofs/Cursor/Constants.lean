import TemplateCalc.Proofs.Cursor.Agreement

/-!
Constants and marks by positions.

An escape in a constant is at most four characters long; the reader stops behind it or at the end of
the text. The characters behind a mark are looked up one at a time.
-/

set_option autoImplicit false

namespace TemplateCalc.Cursor

variable {source : List Char} {position : Nat} {c : Char} {cs : List Char}

/-! ### Escapes -/

def escapeAt : List Char → Escape × List Char
  | [] => (.finish, [])
  | c :: cs =>
    if c = 'x' then
      let ds := (cs.take 2).takeWhile (Numeral.isDigit 16)
      (if ds.isEmpty then .noDigits else .code (Numeral.value 16 ds), cs.drop ds.length)
    else
      match Scan.escaped? c with
      | some c => (.character c, cs)
      | none => (.unknown c, cs)

theorem Stands.hexDigits (stands : Stands source position cs) (count : Nat) :
    let ds := (cs.take count).takeWhile (Numeral.isDigit 16)
    SamePart source (hexDigits source count position) (ds, cs.drop ds.length) := by
  induction count generalizing position cs with
  | zero => exact ⟨rfl, stands⟩
  | succ count induction =>
      rw [Cursor.hexDigits, stands.head?]
      cases cs with
      | nil => exact ⟨rfl, stands⟩
      | cons c cs =>
          have others := induction stands.tail
          simp only [List.head?_cons, List.take_succ_cons, List.takeWhile_cons]
          split
          · exact ⟨congrArg (c :: ·) others.text, others.stands⟩
          · exact ⟨rfl, stands⟩

theorem Stands.escape (stands : Stands source position cs) :
    (escape source position).1 = (escapeAt cs).1 ∧
      Stands source (Cursor.escape source position).2 (escapeAt cs).2 := by
  rw [Cursor.escape, stands.head?]
  cases cs with
  | nil => exact ⟨rfl, stands⟩
  | cons c cs =>
      have digits := stands.tail.hexDigits 2
      simp only [List.head?_cons, escapeAt]
      split
      · exact ⟨by rw [digits.text], digits.stands⟩
      · cases Scan.escaped? c with
        | some c => exact ⟨rfl, stands.tail⟩
        | none => exact ⟨rfl, stands.tail⟩

/-! ### Character constants -/

theorem agrees_closeCharacter (stands : Stands source position cs) (c : Char) :
    Agrees source (closeCharacter source c position) (Scan.closeCharacter c cs) := by
  rw [closeCharacter, stands.holds]
  cases cs with
  | nil => exact .fault stands.inside
  | cons mark cs =>
      have isMark : Scan.startsWith (·.toNat == 0x27) (mark :: cs) = true ↔ mark.toNat = 0x27 :=
        beq_iff_eq
      rw [Scan.closeCharacter]
      simp only [isMark]
      split
      · exact .token stands.tail
      · exact .fault stands.inside

theorem character_plain (noEscape : c ≠ '\\') (cs : List Char) :
    Scan.character (c :: cs) = Scan.closeCharacter c cs := by
  rw [Scan.character]
  · exact fun isEscape _ => noEscape isEscape
  · exact fun _ isEscape _ => noEscape isEscape
  · exact fun _ _ isEscape _ => noEscape isEscape

theorem character_escape (cs : List Char) :
    Scan.character ('\\' :: cs) =
      match escapeAt cs with
      | (.character c, rest) => Scan.closeCharacter c rest
      | (.code n, rest) => Scan.closeCharacter (Char.ofNat n) rest
      | (.noDigits, _) => .error (.badEscape 'x')
      | (.unknown c, _) => .error (.badEscape c)
      | (.finish, _) => .error .characterNotClosed := by
  cases cs with
  | nil => rfl
  | cons c cs =>
      by_cases isX : c = 'x'
      · subst c
        rw [Scan.character, escapeAt, if_pos rfl]
        simp only
        cases ((cs.take 2).takeWhile (Numeral.isDigit 16)).isEmpty <;> rfl
      · rw [Scan.character, escapeAt, if_neg isX]
        · cases Scan.escaped? c <;> rfl
        · exact isX

theorem follows_character : Follows source (character source) Scan.character := by
  intro position cs stands
  rw [character, stands.head?]
  cases cs with
  | nil => exact .fault stands.inside
  | cons c cs =>
      by_cases isEscape : c = '\\'
      · subst c
        obtain ⟨same, behind⟩ := stands.tail.escape
        rw [character_escape]
        simp only [List.head?_cons, if_true]
        generalize escape source (position + 1) = found at same behind ⊢
        generalize escapeAt cs = read at same behind ⊢
        obtain ⟨kind, stop⟩ := found
        obtain ⟨kind', rest⟩ := read
        cases same
        cases kind with
        | character c => exact agrees_closeCharacter behind c
        | code n => exact agrees_closeCharacter behind (Char.ofNat n)
        | noDigits | unknown | finish => exact .fault behind.inside
      · rw [character_plain isEscape]
        simp only [List.head?_cons, if_neg isEscape]
        exact agrees_closeCharacter stands.tail c

/-! ### String constants -/

theorem stringTail_single (digit : Numeral.isDigit 16 c = true) : Scan.stringTail [c] = none := by
  rw [Scan.stringTail_plain]
  · rfl
  · rintro rfl
    cases digit
  · rintro rfl
    cases digit

theorem map_append_nil (found : Option (List Char × List Char)) :
    (found.map fun (chars, rest) => ([] ++ chars, rest)) = found := by
  cases found <;> rfl

theorem stringTail_code (cs : List Char) :
    Scan.stringTail ('\\' :: 'x' :: cs) =
      (escapeAt ('x' :: cs)).1.text?.bind fun front =>
        (Scan.stringTail (escapeAt ('x' :: cs)).2).map fun (chars, rest) =>
          (front ++ chars, rest) := by
  rw [escapeAt, if_pos rfl]
  -- split as both readers do: none, one or two digits behind the mark
  cases cs with
  | nil => rfl
  | cons a cs =>
      cases first : Numeral.digit? 16 a with
      | none =>
          have noDigit : Numeral.isDigit 16 a = false := by rw [Numeral.isDigit, first]; rfl
          simp only [List.take_succ_cons, List.takeWhile_cons, noDigit, Bool.false_eq_true, if_false,
            List.isEmpty_nil, if_true, Escape.text?, Option.bind_some, List.length_nil, List.drop_zero,
            map_append_nil]
          cases cs with
          | nil => rfl
          | cons b rest => rw [Scan.stringTail, first]
      | some high =>
          have digit : Numeral.isDigit 16 a = true := by rw [Numeral.isDigit, first]; rfl
          cases cs with
          | nil =>
              have ended : Scan.stringTail ['\\', 'x', a] = none := by
                rw [Scan.stringTail, stringTail_single digit]
                intro _ _ _ impossible
                cases impossible
              rw [ended]
              simp [digit, Scan.stringTail, Escape.text?]
          | cons b rest =>
              rw [Scan.stringTail, first]
              cases second : Numeral.digit? 16 b with
              | none =>
                  have noDigit : Numeral.isDigit 16 b = false := by
                    rw [Numeral.isDigit, second]
                    rfl
                  have value : Numeral.value 16 [a] = high := by
                    simp [Numeral.value, first]
                  simp [digit, noDigit, value, Escape.text?]
              | some low =>
                  have digit' : Numeral.isDigit 16 b = true := by
                    rw [Numeral.isDigit, second]
                    rfl
                  have value : Numeral.value 16 [a, b] = 16 * high + low := by
                    simp [Numeral.value, first, second, Nat.mul_comm]
                  simp [digit, digit', value, Escape.text?]

theorem stringTail_escape (cs : List Char) :
    Scan.stringTail ('\\' :: cs) =
      (escapeAt cs).1.text?.bind fun front =>
        (Scan.stringTail (escapeAt cs).2).map fun (chars, rest) => (front ++ chars, rest) := by
  cases cs with
  | nil => rfl
  | cons c cs =>
      by_cases isX : c = 'x'
      · subst c
        exact stringTail_code cs
      · rw [Scan.stringTail, escapeAt, if_neg isX]
        · cases Scan.escaped? c <;> rfl
        · exact fun _ _ _ same _ => isX same
        · exact fun same => isX same

/-- A string constant ends at the same place, if it is closed, and inside the text in any case. -/
structure SameString (source : List Char) (found : Option (List Char) × Nat)
    (read : Option (List Char × List Char)) : Prop where
  text : found.1 = read.map Prod.fst
  stands : ∀ parts ∈ read, Stands source found.2 parts.2
  inside : found.2 ≤ source.length

theorem sameString_none {stop : Nat} (inside : stop ≤ source.length) :
    SameString source (none, stop) none := by
  refine ⟨rfl, ?_, inside⟩
  intro parts impossible
  cases impossible

theorem SameString.append {found : Option (List Char) × Nat}
    {read : Option (List Char × List Char)} (same : SameString source found read)
    (front : List Char) :
    SameString source (found.1.map (front ++ ·), found.2)
      (read.map fun (chars, rest) => (front ++ chars, rest)) := by
  refine ⟨?_, ?_, same.inside⟩
  · rw [same.text]
    cases read <;> rfl
  · intro parts member
    obtain ⟨parts', member', rfl⟩ := Option.map_eq_some_iff.mp member
    exact same.stands parts' member'

theorem Stands.stringTail (stands : Stands source position cs) :
    SameString source (stringTail source position) (Scan.stringTail cs) := by
  fun_induction Cursor.stringTail source position generalizing cs with
  | case1 position found =>
      obtain ⟨tail, rfl⟩ := stands.eq_cons found
      refine ⟨rfl, ?_, stands.tail.inside⟩
      rintro parts ⟨⟩
      exact stands.tail
  | case2 position front text chars stop read found noMark induction =>
      obtain ⟨tail, rfl⟩ := stands.eq_cons found
      obtain ⟨same, behind⟩ := stands.tail.escape
      have others := (induction behind).append front
      rw [read] at others
      rw [stringTail_escape, ← same, text]
      exact others
  | case3 position text found noMark =>
      obtain ⟨tail, rfl⟩ := stands.eq_cons found
      obtain ⟨same, behind⟩ := stands.tail.escape
      rw [stringTail_escape, ← same, text]
      exact sameString_none behind.inside
  | case4 position c found noMark noEscape chars stop read induction =>
      obtain ⟨tail, rfl⟩ := stands.eq_cons found
      have others := (induction stands.tail).append [c]
      rw [read] at others
      rw [Scan.stringTail_plain noMark noEscape]
      exact others
  | case5 position ended =>
      obtain rfl := stands.eq_nil ended
      exact sameString_none stands.inside

theorem follows_string : Follows source (string source) Scan.string := by
  intro position cs stands
  obtain ⟨text, ends, inside⟩ := stands.stringTail
  rw [string, Scan.string]
  generalize stringTail source position = found at text ends inside ⊢
  obtain ⟨chars, stop⟩ := found
  simp only at text
  subst text
  cases read : Scan.stringTail cs with
  | none => exact .fault inside
  | some parts => exact .token (ends parts read)

/-! ### Marks -/

theorem follows_alone (token : Token) : Follows source (alone token) (Scan.alone token) :=
  fun _ _ stands => .token stands

theorem follows_fault (fault : LexicalFault) :
    Follows source (.fault fault) fun _ => .error fault :=
  fun _ _ stands => .fault stands.inside

theorem follows_ifNext (c : Char) {behind other : Nat → Outcome}
    {behind' other' : List Char → Scan.Result} (followsBehind : Follows source behind behind')
    (followsOther : Follows source other other') :
    Follows source (ifNext source c behind other) (Scan.ifNext c behind' other') := by
  intro position cs stands
  rw [ifNext, stands.holds]
  cases cs with
  | nil => exact followsOther _ _ stands
  | cons first cs =>
      have isNext : Scan.startsWith (· == c) (first :: cs) = true ↔ first = c := beq_iff_eq
      rw [Scan.ifNext]
      simp only [isNext]
      split
      · exact followsBehind _ _ stands.tail
      · exact followsOther _ _ stands

theorem follows_orEqual (plain withEqual : Token) :
    Follows source (orEqual source plain withEqual) (Scan.orEqual plain withEqual) :=
  follows_ifNext '=' (follows_alone withEqual) (follows_alone plain)

theorem follows_notBefore (first : Char) (forbidden : List Char) (op : Arith) :
    Follows source (notBefore source first forbidden op) (Scan.notBefore first forbidden op) := by
  intro position cs stands
  rw [notBefore, stands.head?]
  cases cs with
  | nil => exact .token stands
  | cons c cs =>
      simp only [List.head?_cons, Scan.notBefore]
      split
      · exact .fault stands.inside
      · exact .token stands

theorem follows_quotedName : Follows source (quotedName source) Scan.quotedName := by
  intro position cs stands
  have name := stands.name
  rw [quotedName, Scan.quotedName, stands.holds]
  split
  · rw [name.text]
    exact .token name.stands
  · exact .fault stands.inside

theorem follows_mark (c : Char) : Follows source (mark source c) (Scan.mark c) := by
  have arithmetic (op : Arith) : Follows source (arithmetic source op) (Scan.arithmetic op) :=
    follows_orEqual _ _
  unfold mark
  split
  · exact follows_string
  · exact follows_quotedName
  · exact follows_ifNext _ (follows_alone _) (arithmetic _)
  · exact follows_ifNext _ (follows_alone _) (arithmetic _)
  · exact arithmetic _
  · exact arithmetic _
  · exact arithmetic _
  · exact follows_ifNext _ (follows_alone _)
      (follows_ifNext _ (follows_alone _) (follows_notBefore _ _ _))
  · exact follows_ifNext _ (follows_alone _)
      (follows_ifNext _ (follows_alone _) (follows_notBefore _ _ _))
  · exact follows_ifNext _ (follows_alone _) (follows_notBefore _ _ _)
  · exact follows_ifNext _ (arithmetic _) (follows_orEqual _ _)
  · exact follows_ifNext _ (arithmetic _) (follows_orEqual _ _)
  · exact follows_orEqual _ _
  · exact follows_orEqual _ _
  -- brackets and other marks of one character
  iterate 9 exact follows_alone _
  · -- the mark of character constants has no pattern of its own
    have other : Scan.mark c = if c.toNat = 0x27 then Scan.character
        else fun _ => .error (.unexpected c) := by
      rw [Scan.mark] <;> assumption
    rw [other]
    split
    · exact follows_character
    · exact follows_fault _

end TemplateCalc.Cursor
