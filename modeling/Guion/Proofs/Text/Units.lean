import Guion.Proofs.Text.Hexadecimal
import Guion.Token.Lexeme

/-! The units of string literals.

Between its quotes a literal is a row of units, each of which stands for one character: a character
for itself, or an escape for what it names. The lexer and the decoder have different views of
escapes. The lexer passes over one character behind a backslash, the decoder over a number up to
the brace that closes it, or up to the end of the literal. Still, as long as the decoder finds no
fault, both go from unit to unit, and so they agree on the quote at which the literal ends.
-/

namespace Guion.Text.Escape

-----------------------------------------------------------------------------------------
-- Units
-----------------------------------------------------------------------------------------

/-- The escapes of a single character, and what they stand for. -/
def shortEscapes : List (Char × Char) :=
  [('a', '\x07'), ('b', '\x08'), ('v', '\x0b'), ('f', '\x0c'), ('n', '\n'), ('r', '\r'),
    ('t', '\t'), ('e', '\x1b'), ('E', '\x1b'), ('\\', '\\'), ('\'', '\''), ('"', '"'), ('$', '$'),
    ('\x60', '\x60'), (' ', ' ')]

/-- A unit stands for one character: a character that is neither a quote nor a backslash for itself,
and an escape for the character that it names by a letter or by a number.
-/
inductive StandsFor : List Char → Char → Prop where
  | plain {c : Char}
      (no_quote : c ≠ '"')
      (no_backslash : c ≠ '\\')
      : StandsFor [c] c
  | short {c meaning : Char}
      (listed : (c, meaning) ∈ shortEscapes)
      : StandsFor ['\\', c] meaning
  | numbered {numeral : List Char} {meaning : Char}
      (names : IsHexNumeral numeral meaning.toNat)
      : StandsFor ('\\' :: 'u' :: '{' :: (numeral ++ ['}'])) meaning

/-- What stands between the quotes of a literal splits into units, and the text is what they stand
for, in their order.
-/
inductive Denotes : List Char → List Char → Prop where
  | nil
      : Denotes [] []
  | cons {unit body text : List Char} {c : Char}
      (first : StandsFor unit c)
      (later : Denotes body text)
      : Denotes (unit ++ body) (c :: text)

-----------------------------------------------------------------------------------------
-- The decoder
-----------------------------------------------------------------------------------------

/-- The calls of the decoder: from a text it comes to what is `left`, and what it has passed is
decoded as `read`. It passes no quote that does not belong to an escape.
-/
inductive Reaches : List Char → List Char → List Char → Prop where
  | here {text : List Char}
      : Reaches text [] text
  | plain {text read left : List Char} {c : Char}
      (no_quote : c ≠ '"')
      (no_backslash : c ≠ '\\')
      (later : Reaches text read left)
      : Reaches (c :: text) (c :: read) left
  | escape {text rest read left : List Char} {meaning : Char}
      (known : escaped text = .ok (meaning, rest))
      (later : Reaches rest read left)
      : Reaches ('\\' :: text) (meaning :: read) left

theorem simple?_eq_some {c meaning : Char}
    : simple? c = some meaning ↔ (c, meaning) ∈ shortEscapes := by
  constructor
  · intro known
    unfold simple? at known
    split at known <;> cases known <;> decide
  · have all : ∀ pair ∈ shortEscapes, simple? pair.1 = some pair.2 := by decide
    exact all (c, meaning)

/-- A number is read up to the brace that closes it, or up to the end of the text. -/
theorem exists_numeral_of_codePoint {cs rest : List Char} {c : Char}
    (found : codePoint cs = .ok (c, rest))
    : ∃ numeral,
        IsHexNumeral numeral c.toNat
        ∧ (cs = '{' :: (numeral ++ '}' :: rest) ∨ cs = '{' :: numeral ∧ rest = []) := by
  unfold codePoint at found
  split at found
  · rename_i text
    dsimp only at found
    split at found
    · cases found
    · rename_i n number
      split at found
      · rename_i valid
        have same : (Char.ofNat n).toNat = n := by
          rw [Char.ofNat, dif_pos valid]
          rfl
        cases found
        refine ⟨text.takeWhile (· != '}'), by rwa [same, ← hexNumber_eq_ok], ?_⟩
        have whole := List.takeWhile_append_dropWhile (p := (· != '}')) (l := text)
        have stops := List.head?_dropWhile_not (· != '}') text
        cases left : text.dropWhile (· != '}') with
        | nil =>
            rw [left, List.append_nil] at whole
            exact .inr ⟨by rw [whole], rfl⟩
        | cons d more =>
            obtain rfl : d = '}' := by simpa [left] using stops
            exact .inl (by rw [List.tail_cons, ← left, whole])
      · cases found
  · cases found

/-- A numeral in braces names the character of its number. -/
theorem codePoint_of_isHexNumeral {numeral : List Char} {c : Char}
    (names : IsHexNumeral numeral c.toNat) (rest : List Char)
    : codePoint ('{' :: (numeral ++ '}' :: rest)) = .ok (c, rest) := by
  have no_brace : ∀ d ∈ numeral, (d != '}') = true := by
    intro d found
    simpa using (names.plain d found).1
  have valid : c.toNat.isValidChar := c.valid
  simp [codePoint, List.takeWhile_append_of_pos no_brace, List.dropWhile_append_of_pos no_brace,
    hexNumber_eq_ok.mpr names, valid]

/-- What the decoder reads behind a backslash makes up a unit with it, unless it is a number that
goes on to the end of the text.
-/
theorem exists_unit_of_escaped {cs rest : List Char} {c : Char}
    (known : escaped cs = .ok (c, rest))
    : (∃ unit, StandsFor ('\\' :: unit) c ∧ cs = unit ++ rest)
      ∨ ∃ numeral, IsHexNumeral numeral c.toNat ∧ cs = 'u' :: '{' :: numeral ∧ rest = [] := by
  unfold escaped at known
  split at known
  · cases known
  · split at known <;> cases known
    rename_i found
    obtain ⟨numeral, names, rfl | ⟨rfl, rfl⟩⟩ := exists_numeral_of_codePoint found
    · exact .inl ⟨_, .numbered names, by simp⟩
    · exact .inr ⟨numeral, names, rfl, rfl⟩
  · split at known <;> cases known
    rename_i meaning
    exact .inl ⟨_, .short (simple?_eq_some.mp meaning), rfl⟩

/-- The decoder reads a unit behind its backslash. -/
theorem escaped_of_standsFor {unit : List Char} {c : Char} (stands : StandsFor ('\\' :: unit) c)
    (rest : List Char)
    : escaped (unit ++ rest) = .ok (c, rest) := by
  cases stands with
  | plain _ no_backslash => contradiction
  | @short letter _ listed =>
      have known := simple?_eq_some.mpr listed
      -- No number starts with this letter.
      have other : letter ≠ 'u' := by
        rintro rfl
        cases known
      simp [escaped, known]
  | numbered names => simp [escaped, codePoint_of_isHexNumeral names]

/-- A character that is neither a quote nor a backslash stands for itself. -/
theorem decode_plain {size : Nat} {decoded cs : List Char} {c : Char} (no_quote : c ≠ '"')
    (no_backslash : c ≠ '\\')
    : decode size decoded (c :: cs) = decode size (c :: decoded) cs := by
  rw [decode]
  simp [no_quote, no_backslash]

/-- An escape stands for what is behind the backslash. -/
theorem decode_escaped {size : Nat} {decoded cs rest : List Char} {c : Char}
    (meaning : escaped cs = .ok (c, rest))
    : decode size decoded ('\\' :: cs) = decode size (c :: decoded) rest := by
  rw [decode, if_neg (by decide), if_pos (by decide)]
  split
  · rename_i found
    cases meaning.symm.trans found
    rfl
  · rename_i unknown
    cases meaning.symm.trans unknown

/-- The decoder goes on where it has come to. -/
theorem Reaches.decode_eq {text read left : List Char} (reaches : Reaches text read left)
    (size : Nat) (decoded : List Char)
    : decode size decoded text = decode size (read.reverse ++ decoded) left := by
  induction reaches generalizing decoded with
  | here => rfl
  | plain no_quote no_backslash _ ih =>
      rw [decode_plain no_quote no_backslash, ih]
      simp
  | escape known _ ih =>
      rw [decode_escaped known, ih]
      simp

/-- The decoder succeeds if and only if it comes to a quote or to the end of the text, and it does
not look any further.
-/
theorem decode_eq_ok {size : Nat} {decoded text whole : List Char}
    : decode size decoded text = .ok whole
      ↔ ∃ read left,
        Reaches text read left
        ∧ (∀ c ∈ left.head?, c = '"')
        ∧ whole = decoded.reverse ++ read := by
  constructor
  · intro succeeds
    fun_induction decode size decoded text with
    | case1 decoded =>
        cases succeeds
        exact ⟨[], [], .here, by simp, by simp⟩
    | case2 decoded c cs quote =>
        cases succeeds
        exact ⟨[], c :: cs, .here, by simpa using quote, by simp⟩
    | case3 decoded c cs no_quote backslash meaning rest known ih =>
        obtain rfl := eq_of_beq backslash
        obtain ⟨read, left, reaches, stops, rfl⟩ := ih succeeds
        exact ⟨_, left, .escape known reaches, stops, by simp⟩
    | case4 => cases succeeds
    | case5 decoded c cs no_quote no_backslash ih =>
        obtain ⟨read, left, reaches, stops, rfl⟩ := ih succeeds
        refine ⟨_, left, .plain ?_ ?_ reaches, stops, by simp⟩
        · simpa using no_quote
        · simpa using no_backslash
  · rintro ⟨read, left, reaches, stops, rfl⟩
    rw [reaches.decode_eq]
    cases left with
    | nil => simp [decode]
    | cons c cs =>
        obtain rfl := stops c rfl
        simp [decode]

/-- From a unit the decoder comes to what stands behind it. -/
theorem Reaches.of_standsFor {unit text read left : List Char} {c : Char}
    (first : StandsFor unit c) (later : Reaches text read left)
    : Reaches (unit ++ text) (c :: read) left := by
  cases first with
  | plain no_quote no_backslash => exact .plain no_quote no_backslash later
  | short listed => exact .escape (escaped_of_standsFor (.short listed) text) later
  | numbered names => exact .escape (escaped_of_standsFor (.numbered names) text) later

/-- The decoder goes over a row of units. -/
theorem Denotes.reaches {body text : List Char} (denotes : Denotes body text) (left : List Char)
    : Reaches (body ++ left) text left := by
  induction denotes with
  | nil => exact .here
  | cons first _ ih =>
      rw [List.append_assoc]
      exact .of_standsFor first ih

/-- A literal of units is decoded as what they stand for. -/
theorem Denotes.unescape_eq {body text : List Char} (denotes : Denotes body text)
    : unescape ('"' :: (body ++ ['"'])) = .ok text :=
  decode_eq_ok.mpr ⟨text, ['"'], denotes.reaches ['"'], by simp, rfl⟩

end Guion.Text.Escape

-----------------------------------------------------------------------------------------
-- The lexer
-----------------------------------------------------------------------------------------

namespace Guion.Lexeme

open Text Escape

/-- The lexer passes over characters that are neither quotes nor backslashes. -/
theorem splitQuote_plain {text : List Char} (plain : ∀ c ∈ text, c ≠ '"' ∧ c ≠ '\\')
    (seen cs : List Char)
    : splitQuote false seen (text ++ cs) = splitQuote false (text.reverse ++ seen) cs := by
  induction text generalizing seen with
  | nil => rfl
  | cons c text ih =>
      rw [List.forall_mem_cons] at plain
      obtain ⟨⟨no_quote, no_backslash⟩, plain⟩ := plain
      have passed : splitQuote false seen (c :: (text ++ cs))
          = splitQuote false (c :: seen) (text ++ cs) := by
        simp [splitQuote, no_quote, beq_false_of_ne no_backslash]
      rw [List.cons_append, passed, ih plain]
      simp

/-- The lexer passes over the character behind a backslash. -/
theorem splitQuote_escaped (seen cs : List Char) (c : Char)
    : splitQuote false seen ('\\' :: c :: cs) = splitQuote false (c :: '\\' :: seen) cs := by
  simp [splitQuote]

/-- The lexer passes over a number and the brace in front of it. -/
theorem splitQuote_numeral {numeral : List Char} {n : Nat} (names : IsHexNumeral numeral n)
    (seen cs : List Char)
    : splitQuote false seen ('\\' :: 'u' :: '{' :: (numeral ++ cs))
      = splitQuote false (numeral.reverse ++ '{' :: 'u' :: '\\' :: seen) cs := by
  have plain : ∀ c ∈ '{' :: numeral, c ≠ '"' ∧ c ≠ '\\' :=
    List.forall_mem_cons.mpr ⟨by decide, fun c found => (names.plain c found).2⟩
  rw [splitQuote_escaped, ← List.cons_append, splitQuote_plain plain]
  simp

/-- The lexer passes over a unit: it contains no quote that closes the literal. -/
theorem splitQuote_unit {unit : List Char} {c : Char} (stands : StandsFor unit c)
    (seen cs : List Char)
    : splitQuote false seen (unit ++ cs) = splitQuote false (unit.reverse ++ seen) cs := by
  cases stands with
  | plain no_quote no_backslash =>
      exact splitQuote_plain (List.forall_mem_singleton.mpr ⟨no_quote, no_backslash⟩) seen cs
  | short => exact splitQuote_escaped ..
  | numbered names =>
      rw [List.cons_append, List.cons_append, List.cons_append, List.append_assoc,
        splitQuote_numeral names, List.singleton_append, splitQuote]
      simp

end Guion.Lexeme

-----------------------------------------------------------------------------------------
-- Where a literal ends
-----------------------------------------------------------------------------------------

namespace Guion.Text.Escape

open Lexeme

/-- In a literal that its last quote closes, the decoder goes from unit to unit, by induction on its
calls. The invariant is that the lexer comes to the same places with no escape begun, and still
finds the last quote from there.
-/
theorem Reaches.exists_body {text read left seen whole : List Char}
    (reaches : Reaches text read left) (closed : splitQuote false seen text = some (whole, []))
    : ∃ body,
        Denotes body read
        ∧ text = body ++ left
        ∧ splitQuote false (body.reverse ++ seen) left = some (whole, []) := by
  induction reaches generalizing seen with
  | here => exact ⟨[], .nil, rfl, closed⟩
  | @plain text read left c no_quote no_backslash _ ih =>
      have unit : StandsFor [c] c := .plain no_quote no_backslash
      rw [← List.singleton_append, splitQuote_unit unit] at closed
      obtain ⟨body, later, rfl, behind⟩ := ih closed
      exact ⟨[c] ++ body, .cons unit later, rfl, by simpa using behind⟩
  | escape known _ ih =>
      rcases exists_unit_of_escaped known with ⟨unit, stands, rfl⟩ | ⟨numeral, names, rfl, rfl⟩
      · rw [← List.cons_append, splitQuote_unit stands] at closed
        obtain ⟨body, later, rfl, behind⟩ := ih closed
        exact ⟨_, .cons stands later, by simp, by simpa using behind⟩
      · -- The closing quote would stand in the number.
        have passed := splitQuote_numeral names seen []
        rw [List.append_nil, closed] at passed
        cases passed

/-- Where it comes to a quote or to the end of such a literal, the decoder stands in front of the
last quote.
-/
theorem Reaches.left_eq {text read left seen whole : List Char}
    (reaches : Reaches text read left) (closed : splitQuote false seen text = some (whole, []))
    (stops : ∀ c ∈ left.head?, c = '"')
    : left = ['"'] := by
  obtain ⟨body, -, -, behind⟩ := reaches.exists_body closed
  cases left with
  | nil => cases behind
  | cons c cs =>
      obtain rfl := stops c rfl
      have closes : splitQuote false (body.reverse ++ seen) ('"' :: cs)
          = some (('"' :: (body.reverse ++ seen)).reverse, cs) := rfl
      obtain ⟨-, rfl⟩ := Prod.mk.inj (Option.some.inj (closes.symm.trans behind))
      rfl

/-- A literal that its last quote closes is decoded if and only if the decoder comes to this quote.
-/
theorem unescape_eq_ok {body contents whole : List Char}
    (closed : splitQuote false ['"'] (body ++ ['"']) = some (whole, []))
    : unescape ('"' :: (body ++ ['"'])) = .ok contents
      ↔ Reaches (body ++ ['"']) contents ['"'] := by
  rw [unescape, List.tail_cons, decode_eq_ok]
  constructor
  · rintro ⟨read, left, reaches, stops, rfl⟩
    obtain rfl := reaches.left_eq closed stops
    exact reaches
  · intro reaches
    exact ⟨contents, ['"'], reaches, by simp, rfl⟩

/-- The decoder comes to the quote that closes a literal if and only if what is between the quotes
splits into units.
-/
theorem reaches_quote_iff {body contents whole : List Char}
    (closed : splitQuote false ['"'] (body ++ ['"']) = some (whole, []))
    : Reaches (body ++ ['"']) contents ['"'] ↔ Denotes body contents := by
  constructor
  · intro reaches
    obtain ⟨units, denotes, same, -⟩ := reaches.exists_body closed
    obtain rfl := List.append_cancel_right same
    exact denotes
  · exact fun denotes => denotes.reaches ['"']

end Guion.Text.Escape
