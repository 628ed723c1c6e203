import Guion.Text.Blank
import Guion.Text.Escape
import Guion.Token.Lexeme

/-! The lexer: a cursor over a source text that yields its tokens one by one. -/

namespace Guion

open Text

/-- A cursor over a source text: what is left of it, and how many bytes lie before. As an iterator
the lexer is `finished` once it has yielded the token at the end of the text.
-/
structure Lexer where
  rest : List Char
  offset : Nat
  finished : Bool

namespace Lexer

/-- The cursor at the start of a source text. -/
def ofString (source : String) : Lexer :=
  ⟨source.toList, 0, false⟩

/-- The number of bytes that a text takes. -/
def byteLength (cs : List Char) : Nat :=
  cs.foldl (fun length c => length + c.utf8Size) 0

/-- The token of a lexeme that starts at the byte `start`. A string literal that cannot be decoded
is illegal.
-/
def token (start : Nat) (lexeme : Lexeme) : Token :=
  let spelling := String.ofList lexeme.text
  let stop := start + byteLength lexeme.text
  match lexeme.kind with
  | .string =>
    match Escape.unescape lexeme.text with
    | .ok contents => ⟨.string, String.ofList contents, start, stop⟩
    | .error _ => ⟨.illegal, spelling, start, stop⟩
  | kind => ⟨kind, spelling, start, stop⟩

/-- The next token, and the cursor behind it. At the end of the text this is the same token
forever.
-/
def nextToken (lexer : Lexer) : Token × Lexer :=
  let lexeme := Lexeme.scan (lexer.rest.dropWhile isBlank)
  let next := token (lexer.offset + byteLength (lexer.rest.takeWhile isBlank)) lexeme
  (next, { lexer with rest := lexeme.rest, offset := next.stop })

/-- The next token of the iterator, which ends behind the token at the end of the text. -/
def next (lexer : Lexer) : Option Token × Lexer :=
  if lexer.finished then
    (none, lexer)
  else
    let (token, lexer) := lexer.nextToken
    (some token, { lexer with finished := token.kind = .endOfInput })

/-- The token behind the blanks at the cursor, unless the text ends there. -/
def step? (lexer : Lexer) : Option (Token × Lexer) :=
  if (lexer.rest.dropWhile isBlank).isEmpty then
    none
  else
    some lexer.nextToken

theorem length_step {lexer later : Lexer} {token : Token}
    (h : lexer.step? = some (token, later))
    : later.rest.length < lexer.rest.length := by
  unfold step? at h
  split at h
  · cases h
  · rename_i some
    cases h
    exact Nat.lt_of_lt_of_le (Lexeme.length_scan (by simpa using some))
      (List.dropWhile_sublist _).length_le

/-- The tokens up to the end of the text, behind those that are `read`, the last one first. -/
def drain (lexer : Lexer) (read : List Token) : List Token :=
  match _step : lexer.step? with
  | none => read.reverse
  | some (token, later) => later.drain (token :: read)
termination_by lexer.rest.length
decreasing_by exact length_step _step

/-- Tokens that have been read stay in front. -/
theorem drain_eq (lexer : Lexer) (read : List Token)
    : lexer.drain read = read.reverse ++ lexer.drain [] := by
  induction h : lexer.rest.length using Nat.strongRecOn generalizing lexer read with
  | _ n ih =>
    rw [drain, drain]
    split
    · simp
    · rename_i token later step
      subst h
      have shorter := length_step step
      rw [ih _ shorter later (token :: read) rfl, ih _ shorter later [token] rfl]
      simp

/-- The tokens at the cursor are the next one and those behind it. -/
theorem drain_step {lexer later : Lexer} {token : Token} (step : lexer.step? = some (token, later))
    : lexer.drain [] = token :: later.drain [] := by
  rw [drain]
  split
  · simp_all
  · rename_i found
    cases step.symm.trans found
    exact drain_eq ..

theorem drain_nil {lexer : Lexer} (step : lexer.step? = none) : lexer.drain [] = [] := by
  rw [drain]
  split
  · rfl
  · simp_all

end Lexer

/-- The tokens of a source text without the one at its end. -/
def words (source : String) : List Token :=
  (Lexer.ofString source).drain []

/-- The tokens of a source text. The last one stands for its end. -/
def tokenize (source : String) : List Token :=
  words source ++ [.ending source.utf8ByteSize]

end Guion
