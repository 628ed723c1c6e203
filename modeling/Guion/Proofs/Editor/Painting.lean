import Guion.Editor.Highlight
import Guion.Proofs.Token.Tiling

/-! What the editor paints: the whole line, and each lexeme in one colour.

Main statement: the parts of a line are its lexemes in the colours of their tokens, and the gaps
between them. They can be cut out of the line by the bytes that the tokens take, as none of these
cuts goes through a character.
-/

namespace Guion.Editor

open Text

-----------------------------------------------------------------------------------------
-- Cuts
-----------------------------------------------------------------------------------------

/-- The text between two bytes of a line. There is none if one of them lies inside a character, or
if they come in the wrong order.
-/
def slice? (line : String) (start stop : Nat) : Option String := do
  let first ← line.pos? ⟨start⟩
  let last ← line.pos? ⟨stop⟩
  let between ← line.slice? first last
  return between.copy

/-- A text in one colour, unless it is empty. -/
def paintText (color : Color) (text : String) : List Part :=
  if text.isEmpty then [] else [⟨color, text.toList⟩]

/-- The gap between two bytes of a line, if there is anything between them. -/
def cutGap? (line : String) (start stop : Nat) : Option (List Part) :=
  if start < stop then
    (slice? line start stop).map (paintText .white)
  else
    some []

/-- The parts of a line behind the bytes that are `written`, cut out by the bytes that the tokens
take.
-/
def cut? (line : String) (written : Nat) : List Token → Option (List Part)
  | [] => cutGap? line written line.utf8ByteSize
  | token :: tokens =>
    if token.kind = .endOfInput then
      cutGap? line written line.utf8ByteSize
    else do
      let gap ← cutGap? line written token.start
      let lexeme ← slice? line token.start token.stop
      let rest ← cut? line token.stop tokens
      return gap ++ paintText (.ofKind token.kind) lexeme ++ rest

/-- Where the first part of a line ends it can be cut. -/
private theorem exists_pos?_of_append {line front behind : String} (split : front ++ behind = line)
    : ∃ pos, line.pos? ⟨front.utf8ByteSize⟩ = some pos ∧ pos.Splits front behind := by
  have valid : String.Pos.Raw.IsValid line ⟨front.utf8ByteSize⟩ :=
    String.Pos.Raw.isValid_iff_exists_append.mpr ⟨front, behind, split.symm, rfl⟩
  have inside : String.Pos.Raw.isValidForSlice line.toSlice ⟨front.utf8ByteSize⟩ = true := by
    simp [String.Pos.Raw.isValidForSlice_toSlice_iff, valid]
  refine ⟨line.pos _ valid, ?_, ⟨split.symm, rfl⟩⟩
  rw [String.pos?, String.Slice.pos?, dif_pos inside]
  rfl

/-- A piece of a line is cut out between its ends. -/
theorem slice?_of_append {line front text behind : String} (split : front ++ text ++ behind = line)
    : slice? line front.utf8ByteSize (front ++ text).utf8ByteSize = some text := by
  obtain ⟨first, found, splits⟩ := exists_pos?_of_append (String.append_assoc.symm.trans split)
  obtain ⟨last, found', splits'⟩ := exists_pos?_of_append split
  obtain ⟨ordered, same⟩ := String.copy_slice_eq_iff_splits.mpr ⟨front, behind, splits, splits'⟩
  simp only [slice?, found, found', String.slice?, dif_pos ordered, same, Option.bind_eq_bind,
    Option.bind_some]
  rfl

/-- The second character takes two bytes. -/
example : slice? "añb" 1 3 = some "ñ" ∧ slice? "añb" 1 2 = none := by decide

theorem cutGap?_of_append {line front gap behind : String} (split : front ++ gap ++ behind = line)
    : cutGap? line front.utf8ByteSize (front ++ gap).utf8ByteSize
      = some (paintText .white gap) := by
  rw [cutGap?, slice?_of_append split]
  split
  · rfl
  · rename_i nothing
    have empty : gap = "" := by
      rw [String.utf8ByteSize_append] at nothing
      exact String.utf8ByteSize_eq_zero_iff.mp (by omega)
    rw [empty]
    rfl

-----------------------------------------------------------------------------------------
-- Tilings in colour
-----------------------------------------------------------------------------------------

/-- The pieces of a line in colour: each gap in that of plain text, and the lexeme behind it in that
of its token.
-/
def paintPieces : List Token → List String → List Part
  | token :: tokens, gap :: lexeme :: pieces =>
    paintText .white gap ++ paintText (.ofKind token.kind) lexeme ++ paintPieces tokens pieces
  | _, _ => []

theorem flatMap_paintText (color : Color) (text : String)
    : (paintText color text).flatMap Part.text = text.toList := by
  unfold paintText
  split
  · rename_i empty
    rw [String.isEmpty_iff.mp empty]
    rfl
  · simp

theorem text_ne_nil_of_mem_paintText {color : Color} {text : String} {part : Part}
    (found : part ∈ paintText color text)
    : part.text ≠ [] := by
  unfold paintText at found
  split at found
  · cases found
  · rename_i some
    rw [List.mem_singleton.mp found]
    simpa using some

theorem text_ne_nil_of_mem_paintPieces {tokens : List Token} {pieces : List String} {part : Part}
    (found : part ∈ paintPieces tokens pieces)
    : part.text ≠ [] := by
  fun_induction paintPieces tokens pieces with
  | case1 token tokens gap lexeme pieces ih =>
      rw [List.mem_append, List.mem_append] at found
      rcases found with (blank | dark) | behind
      · exact text_ne_nil_of_mem_paintText blank
      · exact text_ne_nil_of_mem_paintText dark
      · exact ih behind
  | case2 => cases found

variable {line passed : String} {tokens : List Token} {pieces : List String}

/-- The parts of what is left of a line make it up. -/
theorem flatMap_paintPieces (tiles : Tiles line passed tokens pieces)
    : (paintPieces tokens pieces).flatMap Part.text = (String.join pieces).toList := by
  induction tiles with
  | ending => simp [paintPieces, flatMap_paintText]
  | token _ _ _ _ _ ih => simp [paintPieces, flatMap_paintText, ih]

/-- What is left of a line is cut into its pieces. -/
theorem cut?_of_tiles (tiles : Tiles line passed tokens pieces)
    : cut? line passed.utf8ByteSize tokens = some (paintPieces tokens pieces) := by
  induction tiles with
  | @ending passed gap blank whole =>
      have last := cutGap?_of_append (String.append_empty.trans whole)
      rw [whole] at last
      have ends : (Token.ending line.utf8ByteSize).kind = .endOfInput := rfl
      rw [cut?, if_pos ends, last]
      simp [paintPieces, paintText]
  | @token passed gap lexeme token tokens pieces blank reads start stop later ih =>
      have whole := later.append_join
      have split : passed ++ gap ++ (lexeme ++ String.join pieces) = line := by
        rw [← String.append_assoc, whole]
      have first := cutGap?_of_append split
      have second := slice?_of_append whole
      rw [← start] at first
      rw [← start, ← stop] at second
      rw [← stop] at ih
      rw [cut?, if_neg reads.inside, first, second, ih]
      rfl

-----------------------------------------------------------------------------------------
-- The editor
-----------------------------------------------------------------------------------------

/-- Parts that are painted stay in front. -/
theorem paint_eq (lexer : Lexer) (parts : List Part)
    : paint lexer parts = parts.reverse ++ paint lexer [] := by
  induction lexer using Lexer.step_induction generalizing parts with
  | ends lexer step =>
      rw [paint, paint]
      split
      · simp
      · simp_all
  | goes_on lexer later token step ih =>
      rw [paint, paint]
      split
      · simp_all
      · rename_i found
        cases step.symm.trans found
        rw [ih, ih (_ :: (gap lexer ++ []))]
        simp

theorem gap_eq_paintText (lexer : Lexer)
    : gap lexer = paintText .white (String.ofList (lexer.rest.takeWhile isBlank)) := by
  simp [gap, paintText]

theorem reverse_paintText (color : Color) (text : String)
    : (paintText color text).reverse = paintText color text := by
  unfold paintText
  split <;> rfl

/-- At the end of a line there may be one more gap. -/
theorem paint_nil {lexer : Lexer} (step : lexer.step? = none) : paint lexer [] = gap lexer := by
  rw [paint]
  split
  · rw [List.append_nil, gap_eq_paintText, reverse_paintText]
  · simp_all

/-- Behind a gap there is a lexeme, and the rest of the line. -/
theorem paint_step {lexer later : Lexer} {token : Token} (step : lexer.step? = some (token, later))
    : paint lexer []
      = gap lexer
        ++ ⟨.ofKind token.kind, (Lexeme.scan (lexer.rest.dropWhile isBlank)).text⟩
        :: paint later [] := by
  rw [paint]
  split
  · simp_all
  · rename_i found
    cases step.symm.trans found
    rw [paint_eq, gap_eq_paintText]
    simp [reverse_paintText]

/-- The editor paints what is left of a line piece by piece, by induction along the tokens. -/
theorem exists_tiles_paint {lexer : Lexer} (behind : lexer.Behind line passed)
    : ∃ pieces,
      Tiles line passed (lexer.drain [] ++ [.ending line.utf8ByteSize]) pieces
      ∧ paint lexer [] = paintPieces (lexer.drain [] ++ [.ending line.utf8ByteSize]) pieces := by
  induction lexer using Lexer.step_induction generalizing passed with
  | ends lexer step =>
      have left := List.takeWhile_append_dropWhile (p := isBlank) (l := lexer.rest)
      rw [Lexer.step?_eq_none step, List.append_nil] at left
      rw [Lexer.drain_nil step, paint_nil step, gap_eq_paintText, left]
      refine ⟨_, .ending (behind.ends step).1 behind.whole, ?_⟩
      simp [paintPieces, paintText]
  | goes_on lexer later token step ih =>
      obtain ⟨blank, reads, start, stop, further⟩ := behind.scans step
      obtain ⟨pieces, tiles, painted⟩ := ih further
      obtain ⟨c, cs, spelled, -⟩ := reads.dark
      rw [String.toList_ofList] at spelled
      rw [Lexer.drain_step step, paint_step step, gap_eq_paintText, painted]
      refine ⟨_, .token blank reads start stop tiles, ?_⟩
      simp [paintPieces, paintText, spelled]

/-- The parts of a line make up the line, and none of them is empty. They are the lexemes of the
tokens in their colours and the gaps in front of, between and behind them, as far as these are not
empty. To cut them out by the bytes of the tokens never cuts through a character.
-/
theorem highlight_paints_pieces (line : String)
    : (highlight line).flatMap Part.text = line.toList
      ∧ (∀ part ∈ highlight line, part.text ≠ [])
      ∧ (∃ pieces,
        Tiles line "" (tokenize line) pieces
        ∧ highlight line = paintPieces (tokenize line) pieces)
      ∧ cut? line 0 (tokenize line) = some (highlight line) := by
  obtain ⟨pieces, tiles, painted⟩ := exists_tiles_paint (Lexer.behind_ofString line)
  have rebuilt := tiles.append_join
  rw [String.empty_append] at rebuilt
  have whole : highlight line = paintPieces (tokenize line) pieces := painted
  refine ⟨?_, ?_, ⟨pieces, tiles, whole⟩, ?_⟩
  · rw [whole, tokenize, words, flatMap_paintPieces tiles, rebuilt]
  · intro part found
    rw [whole] at found
    exact text_ne_nil_of_mem_paintPieces found
  · rw [whole]
    exact cut?_of_tiles tiles

end Guion.Editor
