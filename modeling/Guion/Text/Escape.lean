/-! Escapes in string literals: what a backslash and the characters behind it stand for. -/

namespace Guion.Text.Escape

/-- Why a text is not a hexadecimal number below 2^32. -/
inductive HexFault where
  | empty
  | invalidDigit
  | tooLarge
deriving DecidableEq, Repr

/-- Why the text behind a backslash and a `u` names no character. -/
inductive CodePointFault where
  | noBrace
  | notHex (digits : String) (fault : HexFault)
  | notScalar (value : Nat)
deriving DecidableEq, Repr

/-- What is wrong with an escape. -/
inductive Cause where
  | unknown (escaped : Char)
  | codePoint (fault : CodePointFault)
deriving DecidableEq, Repr

/-- A malformed escape and the place of the character behind its backslash, counted in characters
from the opening quote.
-/
structure Fault where
  cause : Cause
  index : Nat
deriving DecidableEq, Repr

def HexFault.message : HexFault → String
  | .empty => "cannot parse integer from empty string"
  | .invalidDigit => "invalid digit found in string"
  | .tooLarge => "number too large to fit in target type"

def CodePointFault.message : CodePointFault → String
  | .noBrace => "expected '\x7b' character in unicode escape"
  | .notHex digits fault => s!"could not parse {digits} as u32 hex: {fault.message}"
  | .notScalar value => s!"could not parse {value} as a unicode char"

/-- The fault in words, with the literal in which it stands. -/
def Fault.message (fault : Fault) (lexeme : String) : String :=
  match fault.cause with
  | .unknown escaped => s!"invalid escape \\{escaped} at {fault.index} in {lexeme}"
  | .codePoint cause =>
    s!"\\u could not be parsed at {fault.index} in {lexeme}: {cause.message}"

/-- The value of a hexadecimal digit. -/
def hexDigit? (c : Char) : Option Nat :=
  if c.isDigit then
    some (c.toNat - '0'.toNat)
  else if 'a' ≤ c ∧ c ≤ 'f' then
    some (c.toNat - 'a'.toNat + 10)
  else if 'A' ≤ c ∧ c ≤ 'F' then
    some (c.toNat - 'A'.toNat + 10)
  else
    none

/-- Reads digits behind those that make up `value`, and stops where the value leaves 32 bits. -/
def readHex (value : Nat) : List Char → Except HexFault Nat
  | [] => .ok value
  | c :: cs =>
    match hexDigit? c with
    | none => .error .invalidDigit
    | some digit =>
      if 16 * value + digit ≤ 0xffffffff then
        readHex (16 * value + digit) cs
      else
        .error .tooLarge

/-- A hexadecimal number below 2^32, with a plus sign in front of it or none. -/
def hexNumber : List Char → Except HexFault Nat
  | [] => .error .empty
  | ['+'] => .error .invalidDigit
  | '+' :: cs => readHex 0 cs
  | cs => readHex 0 cs

/-- The character that is named in braces at the start of a text, and the text behind it. Without
a closing brace all that is left counts as the number.
-/
def codePoint : List Char → Except CodePointFault (Char × List Char)
  | '{' :: cs =>
    let digits := cs.takeWhile (· != '}')
    match hexNumber digits with
    | .error fault => .error (.notHex (String.ofList digits) fault)
    | .ok n =>
      if n.isValidChar then
        .ok (.ofNat n, (cs.dropWhile (· != '}')).tail)
      else
        .error (.notScalar n)
  | _ => .error .noBrace

/-- The escapes of a single character. -/
def simple? : Char → Option Char
  | 'a' => some '\x07'
  | 'b' => some '\x08'
  | 't' => some '\t'
  | 'n' => some '\n'
  | 'v' => some '\x0b'
  | 'f' => some '\x0c'
  | 'r' => some '\r'
  | 'e' => some '\x1b'
  | 'E' => some '\x1b'
  | '\\' => some '\\'
  | '\'' => some '\''
  | '"' => some '"'
  | '$' => some '$'
  | '\x60' => some '\x60'
  | ' ' => some ' '
  | _ => none

/-- What the text behind a backslash stands for, and the text behind the escape. -/
def escaped : List Char → Except Cause (Char × List Char)
  | [] => .error (.unknown '\\')
  | 'u' :: cs =>
    match codePoint cs with
    | .ok found => .ok found
    | .error fault => .error (.codePoint fault)
  | c :: cs =>
    match simple? c with
    | some meaning => .ok (meaning, cs)
    | none => .error (.unknown c)

theorem length_codePoint {cs rest : List Char} {c : Char} (h : codePoint cs = .ok (c, rest))
    : rest.length < cs.length := by
  unfold codePoint at h
  split at h
  · rename_i cs
    dsimp only at h
    split at h
    · cases h
    · split at h
      · cases h
        have := (List.dropWhile_sublist (· != '}') (l := cs)).length_le
        simp only [List.length_tail, List.length_cons]
        omega
      · cases h
  · cases h

/-- An escape takes at least one character. -/
theorem length_escaped {cs rest : List Char} {c : Char} (h : escaped cs = .ok (c, rest))
    : rest.length < cs.length := by
  unfold escaped at h
  split at h
  · cases h
  · rename_i cs
    split at h <;> cases h
    rename_i named
    have := length_codePoint named
    simp only [List.length_cons]
    omega
  · split at h <;> cases h
    simp

/-- Decodes up to the closing quote, behind the characters `decoded` in reverse; `size` is the
number of characters in the whole literal.
-/
def decode (size : Nat) (decoded text : List Char) : Except Fault (List Char) :=
  match text with
  | [] => .ok decoded.reverse
  | c :: cs =>
    if c == '"' then
      .ok decoded.reverse
    else if c == '\\' then
      match _step : escaped cs with
      | .ok (meaning, rest) => decode size (meaning :: decoded) rest
      | .error cause => .error ⟨cause, size - cs.length⟩
    else
      decode size (c :: decoded) cs
termination_by text.length
decreasing_by
  · have := length_escaped _step
    simp only [List.length_cons]
    omega
  · simp

/-- The text that a string literal with its quotes stands for. -/
def unescape (lexeme : List Char) : Except Fault (List Char) :=
  decode lexeme.length [] lexeme.tail

end Guion.Text.Escape
