import Guion.Proofs.Text.Units
import Guion.Text.Quoted

/-! Quoted text is read back.

Every character is written as a unit that stands for it, so that a text is written in a form that is
decoded as the text and that contains no bare quote. Only the character of number zero is written
otherwise: its escape is unknown to the decoder.
-/

namespace Guion.Text

-----------------------------------------------------------------------------------------
-- What is decoded
-----------------------------------------------------------------------------------------

namespace Escape

open Quoted

/-- A character that is written is a unit that stands for it, unless its number is zero. -/
theorem standsFor_writeChar (style : Style) (first : Bool) {c : Char} (visible : c ≠ '\x00')
    : StandsFor (writeChar style first c) c := by
  unfold writeChar
  split
  · contradiction
  · exact .short (by decide)
  · exact .short (by decide)
  · exact .short (by decide)
  · exact .short (by decide)
  · exact .short (by decide)
  · rename_i no_backslash no_quote
    have small : c.toNat ≤ 0xffffffff := by
      have valid : c.toNat.isValidChar := c.valid
      unfold Nat.isValidChar at valid
      omega
    have by_number : StandsFor (byNumber c) c := .numbered (isHexNumeral_toDigits small)
    split
    · rename_i apostrophe
      obtain rfl := beq_iff_eq.mp apostrophe
      split
      · exact .short (by decide)
      · exact .plain (by decide) (by decide)
    · split
      · exact by_number
      · split
        · exact .plain no_quote no_backslash
        · exact by_number

private theorem denotes_flatMap (style : Style) {text : List Char} (visible : '\x00' ∉ text)
    : Denotes (text.flatMap (writeChar style false)) text := by
  induction text with
  | nil => exact .nil
  | cons c cs ih =>
      rw [List.mem_cons, not_or] at visible
      exact .cons (standsFor_writeChar style false (Ne.symm visible.1)) (ih visible.2)

/-- A text is written in units. -/
theorem denotes_write (style : Style) {text : List Char} (visible : '\x00' ∉ text)
    : Denotes (write style text) text := by
  cases text with
  | nil => exact .nil
  | cons c cs =>
      rw [List.mem_cons, not_or] at visible
      exact .cons (standsFor_writeChar style true (Ne.symm visible.1))
        (denotes_flatMap style visible.2)

/-- Quoted text stands for the text. -/
theorem unescape_write (style : Style) {text : List Char} (visible : '\x00' ∉ text)
    : unescape ('"' :: (write style text ++ ['"'])) = .ok text :=
  (denotes_write style visible).unescape_eq

/-- With an unknown escape the whole literal is broken. -/
theorem decode_broken {size : Nat} {decoded cs : List Char} {cause : Cause}
    (unknown : escaped cs = .error cause)
    : decode size decoded ('\\' :: cs) = .error ⟨cause, size - cs.length⟩ := by
  rw [decode, if_neg (by decide), if_pos (by decide)]
  split
  · rename_i found
    cases unknown.symm.trans found
  · rename_i found
    cases unknown.symm.trans found
    rfl

/-- Quoted text with the character of number zero cannot be read: the decoder comes to the first of
these, and there it stops.
-/
theorem exists_unescape_write (style : Style) {text : List Char} (hidden : '\x00' ∈ text)
    : ∃ fault, unescape ('"' :: (write style text ++ ['"'])) = .error fault := by
  obtain ⟨front, back, rfl, visible⟩ := List.eq_append_cons_of_mem hidden
  have written : write style (front ++ '\x00' :: back)
      = write style front ++ '\\' :: '0' :: back.flatMap (writeChar style false) := by
    cases front <;> simp [write, writeChar]
  have reaches := (denotes_write style visible).reaches
    ('\\' :: '0' :: (back.flatMap (writeChar style false) ++ ['"']))
  rw [unescape, List.tail_cons, written, List.append_assoc, List.cons_append, List.cons_append,
    reaches.decode_eq]
  exact ⟨_, decode_broken rfl⟩

end Escape

end Guion.Text

-----------------------------------------------------------------------------------------
-- Where quoted text ends
-----------------------------------------------------------------------------------------

namespace Guion.Lexeme

open Text Quoted

/-- A character that is written contains no quote that ends the text. -/
theorem splitQuote_writeChar (style : Style) (first : Bool) (c : Char) (seen cs : List Char)
    : splitQuote false seen (writeChar style first c ++ cs)
      = splitQuote false ((writeChar style first c).reverse ++ seen) cs := by
  by_cases zero : c = '\x00'
  · subst zero
    exact splitQuote_escaped ..
  · exact splitQuote_unit (Escape.standsFor_writeChar style first zero) seen cs

private theorem splitQuote_flatMap (style : Style) (text seen cs : List Char)
    : splitQuote false seen (text.flatMap (writeChar style false) ++ cs)
      = splitQuote false ((text.flatMap (writeChar style false)).reverse ++ seen) cs := by
  induction text generalizing seen with
  | nil => rfl
  | cons c text ih =>
      rw [List.flatMap_cons, List.append_assoc, splitQuote_writeChar, ih]
      simp

theorem splitQuote_write (style : Style) (text seen cs : List Char)
    : splitQuote false seen (write style text ++ cs)
      = splitQuote false ((write style text).reverse ++ seen) cs := by
  cases text with
  | nil => rfl
  | cons c text =>
      rw [write, List.append_assoc, splitQuote_writeChar, splitQuote_flatMap]
      simp

/-- Quoted text is one lexeme, whatever stands behind it. -/
theorem scanString_write (style : Style) (text rest : List Char)
    : scanString (write style text ++ '"' :: rest)
      = ⟨.string, '"' :: (write style text ++ ['"']), rest⟩ := by
  have split
      : splitQuote false ['"'] (write style text ++ '"' :: rest)
        = some ('"' :: (write style text ++ ['"']), rest) := by
    rw [splitQuote_write]
    simp [splitQuote]
  rw [scanString, split]

end Guion.Lexeme
