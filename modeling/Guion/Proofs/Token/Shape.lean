import Guion.Proofs.Token.Lexed
import Guion.Proofs.Text.Quoted

/-! What the grammar sees of a source text: the kinds and literals of its tokens, without their
places.

These do not depend on where a text starts, so the tokens of a text that is put together from pieces
are found piece by piece. A word or a number must not be followed by more of its characters, and
neither a bang nor an equals sign by another equals sign.
-/

namespace Guion

open Text

/-- A token without its place. -/
abbrev Shape : Type :=
  Token.Kind × String

def Token.shape (token : Token) : Shape :=
  (token.kind, token.literal)

/-- A token is its shape and its place. -/
theorem Token.eq_of_shape {a b : Token} (shape : a.shape = b.shape) (start : a.start = b.start)
    (stop : a.stop = b.stop)
    : a = b := by
  obtain ⟨kind, literal⟩ := Prod.mk.inj shape
  cases a
  cases b
  simp_all

namespace Lexer

/-- The shape of a token does not depend on where it starts. -/
theorem shape_token (start : Nat) (lexeme : Lexeme)
    : (token start lexeme).shape = (token 0 lexeme).shape := by
  unfold token
  split
  · split <;> rfl
  · rfl

/-- The shapes of the tokens of a text. -/
def shapes (cs : List Char) : List Shape :=
  ((⟨cs, 0, false⟩ : Lexer).drain []).map Token.shape

/-- The tokens at a cursor are the next one and those behind it, unless only blanks are left. -/
private theorem drain_ite (lexer : Lexer)
    : lexer.drain []
      = if (lexer.rest.dropWhile isBlank).isEmpty then
          []
        else
          lexer.nextToken.1 :: lexer.nextToken.2.drain [] := by
  split
  · rename_i ends
    exact drain_nil (if_pos ends)
  · rename_i more
    exact drain_step (if_neg more)

/-- Cursors in front of the same text yield the same shapes. -/
theorem map_shape_drain (lexer : Lexer) : (lexer.drain []).map Token.shape = shapes lexer.rest := by
  induction length : lexer.rest.length using Nat.strongRecOn generalizing lexer with
  | _ n ih =>
      rw [shapes, drain_ite, drain_ite ⟨lexer.rest, 0, false⟩]
      split
      · rfl
      · rename_i more
        have shorter : lexer.nextToken.2.rest.length < n := by
          have step : lexer.step? = some lexer.nextToken := if_neg more
          exact length ▸ length_step step
        have first : lexer.nextToken.1.shape
            = (⟨lexer.rest, 0, false⟩ : Lexer).nextToken.1.shape :=
          (shape_token ..).trans (shape_token ..).symm
        have behind := ih _ shorter lexer.nextToken.2 rfl
        have behind' := ih _ shorter (⟨lexer.rest, 0, false⟩ : Lexer).nextToken.2 rfl
        rw [List.map_cons, List.map_cons, first, behind, behind']
        rfl

theorem map_shape_words (source : String)
    : (words source).map Token.shape = shapes source.toList :=
  map_shape_drain _

/-- The shapes of a text are those of the lexeme behind its blanks and of the text behind that. -/
theorem shapes_eq (cs : List Char)
    : shapes cs
      = if (cs.dropWhile isBlank).isEmpty then
          []
        else
          (token 0 (Lexeme.scan (cs.dropWhile isBlank))).shape
            :: shapes (Lexeme.scan (cs.dropWhile isBlank)).rest := by
  rw [shapes, drain_ite]
  split
  · rfl
  · rw [List.map_cons, map_shape_drain]
    exact congrArg (· :: _) (shape_token ..)

@[simp]
theorem shapes_nil : shapes [] = [] := by
  rw [shapes_eq]
  rfl

/-- Blanks are passed over. -/
@[simp]
theorem shapes_space (cs : List Char) : shapes (' ' :: cs) = shapes cs := by
  rw [shapes_eq, shapes_eq cs, List.dropWhile_cons_of_pos (by decide)]

/-- A text starts with a lexeme unless it starts with a blank. -/
theorem shapes_cons {c : Char} {cs : List Char} (dark : isBlank c = false)
    : shapes (c :: cs)
      = (token 0 (Lexeme.scan (c :: cs))).shape :: shapes (Lexeme.scan (c :: cs)).rest := by
  rw [shapes_eq, List.dropWhile_cons_of_neg (by simp [dark])]
  rfl

/-- Only string literals are decoded. -/
theorem shape_of_ne {lexeme : Lexeme} (raw : lexeme.kind ≠ .string)
    : (token 0 lexeme).shape = (lexeme.kind, String.ofList lexeme.text) := by
  unfold token
  split
  · contradiction
  · rfl

-----------------------------------------------------------------------------------------
-- Signs
-----------------------------------------------------------------------------------------

/-- Two equals signs, or a bang and an equals sign, are one sign; else each stands for itself. -/
theorem scan_cons {c : Char} {cs : List Char}
    (single : cs.head? = some '=' → c ≠ '=' ∧ c ≠ '!')
    : Lexeme.scan (c :: cs) = Lexeme.scanFrom c cs := by
  unfold Lexeme.scan
  split
  · contradiction
  · rename_i same
    cases same
    exact absurd rfl (single rfl).1
  · rename_i same
    cases same
    exact absurd rfl (single rfl).2
  · rename_i same
    cases same
    rfl

/-- Behind a quote there is a literal. -/
theorem scan_quote (cs : List Char) : Lexeme.scan ('"' :: cs) = Lexeme.scanString cs := by
  rw [scan_cons (fun _ => by decide)]
  rfl

/-- A sign is a lexeme of its own. -/
theorem scan_sign {c : Char} {cs : List Char} {kind : Token.Kind}
    (sign : Lexeme.sign? c = some kind) (single : cs.head? = some '=' → c ≠ '=' ∧ c ≠ '!')
    : Lexeme.scan (c :: cs) = ⟨kind, [c], cs⟩ := by
  rw [scan_cons single, Lexeme.scanFrom, sign]

/-- A sign is a token of its own. -/
theorem shapes_sign {c : Char} {cs : List Char} {kind : Token.Kind}
    (sign : Lexeme.sign? c = some kind) (single : cs.head? = some '=' → c ≠ '=' ∧ c ≠ '!')
    : shapes (c :: cs) = (kind, String.ofList [c]) :: shapes cs := by
  have known : isBlank c = false ∧ kind ≠ .string := by
    unfold Lexeme.sign? at sign
    split at sign <;> cases sign <;> decide
  rw [shapes_cons known.1, scan_sign sign single, shape_of_ne known.2]

-----------------------------------------------------------------------------------------
-- Words, numbers and strings
-----------------------------------------------------------------------------------------

/-- A text does not go on with more characters of a word. -/
def Apart (cs : List Char) : Prop :=
  ∀ c, cs.head? = some c → isWordChar c = false

/-- What passes a test up to a character that does not is taken as a whole. -/
private theorem span_apart {p : Char → Bool} {cs rest : List Char} (pass : ∀ c ∈ cs, p c = true)
    (stop : ∀ c, rest.head? = some c → p c = false)
    : (cs ++ rest).takeWhile p = cs ∧ (cs ++ rest).dropWhile p = rest := by
  rw [List.takeWhile_append_of_pos pass, List.dropWhile_append_of_pos pass]
  cases rest with
  | nil => simp
  | cons c rest => simp [stop c rfl]

private theorem isBlank_of_bounds {c : Char} (low : 33 ≤ c.toNat) (high : c.toNat ≤ 132)
    : isBlank c = false := by
  simp only [isBlank, Bool.or_eq_false_iff, Bool.and_eq_false_iff, decide_eq_false_iff_not,
    beq_eq_false_iff_ne]
  omega

private theorem isDigit_iff_bounds {c : Char}
    : c.isDigit = true ↔ 48 ≤ c.toNat ∧ c.toNat ≤ 57 := by
  simp only [Char.isDigit, Bool.and_eq_true, decide_eq_true_eq, ge_iff_le,
    UInt32.le_iff_toNat_le]
  exact Iff.rfl

private theorem bounds_of_isAlpha {c : Char} (alpha : c.isAlpha = true)
    : 65 ≤ c.toNat ∧ c.toNat ≤ 122 := by
  rcases (Bool.or_eq_true _ _).mp alpha with upper | lower
  · have bounds : 65 ≤ c.toNat ∧ c.toNat ≤ 90 := of_decide_eq_true upper
    omega
  · obtain ⟨low, high⟩ := (Bool.and_eq_true _ _).mp lower
    have low : 97 ≤ c.toNat := of_decide_eq_true low
    have high : c.toNat ≤ 122 := of_decide_eq_true high
    omega

/-- No letter is a blank or a digit. -/
theorem not_blank_of_isLetter {c : Char} (letter : isLetter c = true)
    : isBlank c = false ∧ c.isDigit = false := by
  rw [isLetter, Bool.or_eq_true, decide_eq_true_eq] at letter
  rcases letter with alpha | other
  · have bounds := bounds_of_isAlpha alpha
    refine ⟨isBlank_of_bounds (by omega) (by omega), ?_⟩
    rw [← Bool.not_eq_true, isDigit_iff_bounds]
    omega
  · let plain (d : Char) : Bool := !isBlank d && !d.isDigit
    have checked : plain c = true := (@List.all_eq_true _ plain _).mp (by decide) c other
    simpa [plain] using checked

/-- No character of a word is a sign or a quote. -/
theorem sign?_of_isWordChar {c : Char} (word : isWordChar c = true)
    : Lexeme.sign? c = none ∧ c ≠ '"' := by
  constructor
  · unfold Lexeme.sign?
    split <;> first | rfl | exact absurd word (by decide)
  · rintro rfl
    exact absurd word (by decide)

/-- Nothing that starts with a character of a word is a sign of two characters. -/
theorem single_of_isWordChar {c : Char} {cs : List Char} (word : isWordChar c = true)
    : cs.head? = some '=' → c ≠ '=' ∧ c ≠ '!' := by
  intro _
  constructor <;>
  · rintro rfl
    exact absurd word (by decide)

/-- A word is a lexeme of its own unless it goes on. -/
theorem scan_word {c : Char} {cs rest : List Char} (letter : isLetter c = true)
    (chars : ∀ d ∈ cs, isWordChar d = true) (apart : Apart rest)
    : Lexeme.scan (c :: cs ++ rest) = ⟨.ofWord (String.ofList (c :: cs)), c :: cs, rest⟩ := by
  have first : isWordChar c = true := by simp [isWordChar, letter]
  obtain ⟨taken, left⟩ := span_apart chars apart
  obtain ⟨-, no_digit⟩ := not_blank_of_isLetter letter
  obtain ⟨no_sign, no_quote⟩ := sign?_of_isWordChar first
  rw [List.cons_append, scan_cons (single_of_isWordChar first), Lexeme.scanFrom, no_sign]
  simp [no_quote, no_digit, letter, taken, left]

/-- A word is a token of its own unless it goes on. -/
theorem shapes_word {word : String} {c : Char} {cs rest : List Char}
    (spelled : word.toList = c :: cs) (letter : isLetter c = true)
    (chars : ∀ d ∈ cs, isWordChar d = true) (apart : Apart rest)
    : shapes (word.toList ++ rest) = (.ofWord word, word) :: shapes rest := by
  have whole : String.ofList (c :: cs) = word := by rw [← spelled, String.ofList_toList]
  have lexeme := scan_word letter chars apart
  rw [whole] at lexeme
  rw [spelled, List.cons_append, shapes_cons (not_blank_of_isLetter letter).1,
    ← List.cons_append, lexeme,
    shape_of_ne (Token.Kind.ofWord_ne_string word), whole]

/-- A name is one token. -/
theorem shapes_name {name : String} {rest : List Char} (named : IsName name) (apart : Apart rest)
    : shapes (name.toList ++ rest) = (.identifier, name) :: shapes rest := by
  obtain ⟨c, cs, spelled, letter, chars⟩ := named.spelled
  rw [shapes_word spelled letter chars apart, named.free]

theorem not_blank_of_isDigit {c : Char} (digit : c.isDigit = true) : isBlank c = false := by
  have bounds := isDigit_iff_bounds.mp digit
  exact isBlank_of_bounds (by omega) (by omega)

/-- A number is a lexeme of its own unless it goes on. -/
theorem scan_digits {c : Char} {cs rest : List Char} (digits : ∀ d ∈ c :: cs, d.isDigit = true)
    (stop : ∀ d, rest.head? = some d → d.isDigit = false)
    : Lexeme.scan (c :: cs ++ rest) = ⟨.integer, c :: cs, rest⟩ := by
  rw [List.forall_mem_cons] at digits
  have first : isWordChar c = true := by simp [isWordChar, digits.1]
  obtain ⟨taken, left⟩ := span_apart digits.2 stop
  obtain ⟨no_sign, no_quote⟩ := sign?_of_isWordChar first
  rw [List.cons_append, scan_cons (single_of_isWordChar first), Lexeme.scanFrom, no_sign]
  simp [no_quote, digits.1, taken, left]

/-- A number is a token of its own unless it goes on. -/
theorem shapes_digits {c : Char} {cs rest : List Char}
    (digits : ∀ d ∈ c :: cs, d.isDigit = true) (apart : Apart rest)
    : shapes (c :: cs ++ rest) = (.integer, String.ofList (c :: cs)) :: shapes rest := by
  have stop : ∀ d, rest.head? = some d → d.isDigit = false := by
    intro d found
    have ends := apart d found
    rw [isWordChar, Bool.or_eq_false_iff] at ends
    exact ends.2
  have dark := not_blank_of_isDigit (digits c (List.mem_cons_self ..))
  rw [List.cons_append, shapes_cons dark, ← List.cons_append, scan_digits digits stop]
  rfl

/-- The shape of the token of a quoted text. With the character of number zero it is illegal. -/
def quoted (value : String) : Shape :=
  if '\x00' ∈ value.toList then
    (.illegal, Quoted.quote Quoted.literal value)
  else
    (.string, value)

/-- Quoted text is one token. -/
theorem shapes_quote (value : String) (rest : List Char)
    : shapes ((Quoted.quote Quoted.literal value).toList ++ rest)
      = quoted value :: shapes rest := by
  have text : (Quoted.quote Quoted.literal value).toList ++ rest
      = '"' :: (Quoted.write Quoted.literal value.toList ++ '"' :: rest) := by
    simp [Quoted.quote]
  have lexeme : Lexeme.scan ('"' :: (Quoted.write Quoted.literal value.toList ++ '"' :: rest))
      = ⟨.string, '"' :: (Quoted.write Quoted.literal value.toList ++ ['"']), rest⟩ := by
    rw [scan_quote]
    exact Lexeme.scanString_write Quoted.literal value.toList rest
  rw [text, shapes_cons (by decide), lexeme]
  congr 1
  by_cases hidden : '\x00' ∈ value.toList
  · obtain ⟨fault, broken⟩ := Escape.exists_unescape_write Quoted.literal hidden
    simp only [token, broken, quoted, if_pos hidden]
    rfl
  · have decoded := Escape.unescape_write Quoted.literal hidden
    simp only [token, decoded, quoted, if_neg hidden, String.ofList_toList]
    rfl

end Lexer

end Guion
