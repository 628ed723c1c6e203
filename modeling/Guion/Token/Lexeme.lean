import Guion.Token.Basic

/-! Lexemes: the longest token text at the start of a source text. -/

namespace Guion

/-- Whether a character may start a word. -/
def isLetter (c : Char) : Bool :=
  c.isAlpha || c ∈ ['_', 'á', 'é', 'í', 'ó', 'ú', 'Á', 'É', 'Í', 'Ó', 'Ú', 'ñ', 'Ñ']

/-- Whether a character may stand in a word behind its first letter. -/
def isWordChar (c : Char) : Bool :=
  isLetter c || c.isDigit

/-- A token text and what follows it. -/
structure Lexeme where
  kind : Token.Kind
  text : List Char
  rest : List Char

namespace Lexeme

/-- Splits a text behind the first quote that no backslash escapes. `escaped` tells that a backslash
stands in front of the text, and `seen` holds the characters passed, the last one first.
-/
def splitQuote (escaped : Bool) (seen : List Char) : List Char → Option (List Char × List Char)
  | [] => none
  | c :: cs =>
    if escaped then
      splitQuote false (c :: seen) cs
    else if c == '"' then
      some ((c :: seen).reverse, cs)
    else
      splitQuote (c == '\\') (c :: seen) cs

/-- The lexeme of a string literal whose opening quote stands in front of `cs`. Without a closing
quote all that is left is illegal.
-/
def scanString (cs : List Char) : Lexeme :=
  match splitQuote false ['"'] cs with
  | some (text, rest) => ⟨.string, text, rest⟩
  | none => ⟨.illegal, '"' :: cs, []⟩

/-- The kind of a sign of one character. -/
def sign? : Char → Option Token.Kind
  | '(' => some .leftParen
  | ')' => some .rightParen
  | '{' => some .leftBrace
  | '}' => some .rightBrace
  | ',' => some .comma
  | ';' => some .semicolon
  | '+' => some .plus
  | '-' => some .minus
  | '*' => some .star
  | '/' => some .slash
  | '!' => some .bang
  | '=' => some .equal
  | '<' => some .less
  | '>' => some .greater
  | _ => none

/-- The lexeme that starts with `c`. -/
def scanFrom (c : Char) (cs : List Char) : Lexeme :=
  match sign? c with
  | some kind => ⟨kind, [c], cs⟩
  | none =>
    if c == '"' then
      scanString cs
    else if c.isDigit then
      ⟨.integer, c :: cs.takeWhile Char.isDigit, cs.dropWhile Char.isDigit⟩
    else if isLetter c then
      let word := c :: cs.takeWhile isWordChar
      ⟨.ofWord (String.ofList word), word, cs.dropWhile isWordChar⟩
    else
      ⟨.illegal, [c], cs⟩

/-- The lexeme at the start of a text that does not start with a blank. -/
def scan : List Char → Lexeme
  | [] => ⟨.endOfInput, [], []⟩
  | '=' :: '=' :: cs => ⟨.equalEqual, ['=', '='], cs⟩
  | '!' :: '=' :: cs => ⟨.bangEqual, ['!', '='], cs⟩
  | c :: cs => scanFrom c cs

theorem length_splitQuote {escaped : Bool} {seen cs text rest : List Char}
    (h : splitQuote escaped seen cs = some (text, rest))
    : rest.length < cs.length := by
  fun_induction splitQuote escaped seen cs with
  | case1 => cases h
  | case2 _ _ _ ih => exact Nat.lt_succ_of_lt (ih h)
  | case3 => cases h; simp
  | case4 _ _ _ _ _ _ ih => exact Nat.lt_succ_of_lt (ih h)

theorem length_scanFrom (c : Char) (cs : List Char)
    : (scanFrom c cs).rest.length ≤ cs.length := by
  unfold scanFrom
  split
  · exact Nat.le_refl _
  · split
    · unfold scanString
      split
      · exact Nat.le_of_lt (length_splitQuote (by assumption))
      · exact Nat.zero_le _
    · split
      · exact (List.dropWhile_sublist _).length_le
      · split
        · exact (List.dropWhile_sublist _).length_le
        · exact Nat.le_refl _

/-- A lexeme of a text that is not empty takes at least one character. -/
theorem length_scan {cs : List Char} (h : cs ≠ [])
    : (scan cs).rest.length < cs.length := by
  unfold scan
  split
  · contradiction
  · simp only [List.length_cons]
    omega
  · simp only [List.length_cons]
    omega
  · exact Nat.lt_succ_of_le (length_scanFrom ..)

end Lexeme

end Guion
