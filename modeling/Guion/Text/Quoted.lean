import Guion.Text.Printable
import Guion.Text.Extender

/-! Quoted text: a text between double quotes in which every character can be seen.

Quotes, backslashes and the common control characters are written with a backslash, characters
that cannot be shown are written by number, and a character that would attach to an opening quote
is written by number as well.
-/

namespace Guion.Text.Quoted

/-- What two ways of quoting decide differently. -/
structure Style where
  /-- An apostrophe is written with a backslash. -/
  apostrophe : Bool
  /-- An extender is written by number behind the first character as well. -/
  everyExtender : Bool

/-- The style of string literals in printed programs. -/
def literal : Style := ⟨true, false⟩

/-- The style of source text in the journal. -/
def excerpt : Style := ⟨false, true⟩

/-- A character by its number, in lower-case hexadecimal digits. -/
def byNumber (c : Char) : List Char :=
  '\\' :: 'u' :: '{' :: (Nat.toDigits 16 c.toNat ++ ['}'])

/-- How a character is written; `first` tells that it opens the text. -/
def writeChar (style : Style) (first : Bool) (c : Char) : List Char :=
  match c with
  | '\x00' => ['\\', '0']
  | '\t' => ['\\', 't']
  | '\r' => ['\\', 'r']
  | '\n' => ['\\', 'n']
  | '\\' => ['\\', '\\']
  | '"' => ['\\', '"']
  | c =>
    if c == '\'' then
      if style.apostrophe then ['\\', '\''] else ['\'']
    else if (first || style.everyExtender) && isExtender c then
      byNumber c
    else if isPrintable c then
      [c]
    else
      byNumber c

/-- A text as it is written between the quotes. -/
def write (style : Style) : List Char → List Char
  | [] => []
  | c :: cs => writeChar style true c ++ cs.flatMap (writeChar style false)

/-- A text in quotes. -/
def quote (style : Style) (s : String) : String :=
  String.ofList ('"' :: (write style s.toList ++ ['"']))

end Guion.Text.Quoted
