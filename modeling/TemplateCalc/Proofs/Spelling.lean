import TemplateCalc.Proofs.Written

/-!
Writing rows of tokens.

Every token that a text without reals can hold is read back from the way it is written, so a row of
them with blanks in between is read back as it is.
-/

set_option autoImplicit false

namespace TemplateCalc

/-! ### Names that are read -/

namespace Scan

theorem name_cons {c : Char} (inside : Text.isNameChar c = true) (cs : List Char) :
    name (c :: cs) = (c :: (name cs).1, (name cs).2) := by
  rw [name]
  · rw [if_pos inside]
  · rintro next tail rfl _
    exact absurd inside (by decide)

/-- What is read as a name is read as a whole when nothing follows it. -/
theorem name_name (cs : List Char) : name (name cs).1 = ((name cs).1, []) := by
  fun_induction name cs with
  | case1 | case3 | case5 => rfl
  | case2 c rest start chars after found ih =>
      -- the name behind the colons is not empty, so they join it again
      have inside := isNameChar_of_isNameStart start
      rw [name_cons inside] at found
      obtain ⟨rfl, rfl⟩ := Prod.mk.inj found
      rw [name_cons inside] at ih
      simp only [name, start, if_true, ih]
  | case4 c rest _ inside chars after found ih =>
      rw [found] at ih
      rw [name_cons inside, ih]

def IsNameOf (start : Char → Bool) (text : String) : Prop :=
  ∃ cs, startsWith start cs = true ∧ text = String.ofList (name cs).1

theorem IsNameOf.toList {start : Char → Bool}
    (inside : ∀ c, start c = true → Text.isNameChar c = true) {text : String}
    (isName : IsNameOf start text) :
    startsWith start text.toList = true ∧ name text.toList = (text.toList, []) := by
  obtain ⟨cs, starts, rfl⟩ := isName
  rw [String.toList_ofList]
  refine ⟨?_, name_name cs⟩
  cases cs with
  | nil => cases starts
  | cons c cs =>
      rw [name_cons (inside c starts)]
      exact starts

theorem alone_quoted {text : String} (starts : startsWith Text.isNameChar text.toList = true)
    (whole : name text.toList = (text.toList, [])) {rules : Rules} :
    Alone rules (Token.quoted text).text (.quoted text) := by
  have isText : (Token.quoted text).text.toList = '@' :: text.toList := by
    simp [Token.text]
  apply alone_of_tokenFrom isText (by decide)
  intro afterOperand
  change quotedName text.toList = _
  rw [quotedName, if_pos starts, whole, String.ofList_toList]

end Scan

/-! ### Tokens that can be written -/

namespace Token

/-- How a token is written in a text: as diagnostics show it, with escapes in string constants. -/
def written : Token → String
  | str s => Scan.constant s
  | token => token.text

/-- The tokens that are read back: all but reals, negative integers, strings with a NUL, and words
that are no names. Only behind `@` can a name start with a digit. -/
def Writable : Token → Prop
  | int n => 0 ≤ n
  | str s => '\x00' ∉ s.toList
  | word s => Scan.IsNameOf Text.isNameStart s
  | quoted s => Scan.IsNameOf Text.isNameChar s
  | real _ | finish => False
  | _ => True

end Token

namespace Scan

theorem alone_written {rules : Rules} (ten : rules.radix = 10) {token : Token}
    (writable : token.Writable) : Alone rules token.written token := by
  cases token with
  | int n => exact alone_int ten writable
  | str s => exact alone_constant writable
  | word s =>
      obtain ⟨starts, whole⟩ := writable.toList fun _ => isNameChar_of_isNameStart
      have isWhole : isName s.toList = true := by
        rw [isName, starts, whole]
        rfl
      exact alone_word ten isWhole
  | quoted s =>
      obtain ⟨starts, whole⟩ := writable.toList fun _ => id
      exact alone_quoted starts whole
  | real | finish => exact writable.elim
  | _ => exact alone_mark rfl

/-- Tokens that are written with blanks in between are read back as they are. -/
theorem written_tokens_read_back (tokens : List Token)
    (writable : ∀ token ∈ tokens, token.Writable) :
    scan {} (spaced Token.written tokens) = ⟨tokens, none⟩ :=
  scan_spaced rfl fun token member => alone_written rfl (writable token member)

/-- Tokens whose texts would run together without the blanks, a name behind `@` that starts with a
digit, and a string with marks in it. -/
theorem written_tokens_with_shared_starts :
    let tokens : List Token :=
      [.word "Color::Red", .dot, .int 5, .operator (.arith .bitAnd), .both, .assign (some .bitAnd),
        .colon, .colon, .quoted "1st", .dot, .str "a\\\"b", .step .increment,
        .operator (.arith .add)]
    (∀ token ∈ tokens, token.Writable) ∧
      scan {} (spaced Token.written tokens) = ⟨tokens, none⟩ := by
  intro tokens
  have color : IsNameOf Text.isNameStart "Color::Red" :=
    ⟨"Color::Red".toList, by decide +kernel⟩
  have first : IsNameOf Text.isNameChar "1st" := ⟨"1st".toList, by decide +kernel⟩
  have noEnd : '\x00' ∉ "a\\\"b".toList := by decide
  have positive : (0 : Int64) ≤ 5 := by decide
  have writable : ∀ token ∈ tokens, token.Writable := by
    simp only [tokens, List.forall_mem_cons]
    exact ⟨color, trivial, positive, trivial, trivial, trivial, trivial, trivial, first, trivial,
      noEnd, trivial, trivial, nofun⟩
  exact ⟨writable, written_tokens_read_back tokens writable⟩

end Scan

end TemplateCalc
