import Guion.Proofs.Evaluation.Moments
import Guion.Proofs.Parsing.Acceptance
import Guion.Proofs.Parsing.Course

/-! Attempts at a statement.

A reader makes progress: all that is read for a task is read for lower tasks, and behind a statement
that is given up reading goes on behind a token. So it comes to the end of the source, and no two
attempts at a statement start at the same token, in whichever block they are. Each attempt leaves a
statement or a report. Main statement: there are no more of these than tokens.
-/

namespace Guion

namespace Plan

variable {Call : Type} {Answer : Call → Type} {allowed : Call → Prop} {α : Type}

/-- A plan asks only for what it is allowed to. -/
theorem allowed_of_mem_asked {oracle : (c : Call) → Answer c} {plan : Plan Answer allowed α}
    {c : Call} (found : c ∈ plan.asked oracle)
    : allowed c := by
  induction plan with
  | done => cases found
  | ask first lower resume ih =>
      rcases List.mem_cons.mp found with rfl | behind
      · exact lower
      · exact ih _ behind

end Plan

namespace Parsing

variable {start part position : Position} {place : Place}

/-- The tasks that are read directly for a task, in order. -/
def Task.asked (task : Task) : List Task :=
  (body task).asked read

/-- No task is read for itself, also not through others, and there is no endless descent. -/
theorem asked_wellFounded : WellFounded fun part task : Task => part ∈ task.asked :=
  Subrelation.wf (fun found => Plan.allowed_of_mem_asked found) lower_wellFounded

-----------------------------------------------------------------------------------------
-- The tokens that are left for attempts
-----------------------------------------------------------------------------------------

/-- The number of tokens at which an attempt may start in a place. -/
def room (place : Place) (position : Position) : Nat :=
  position.countP fun token => !closes place token.kind

/-- An attempt takes the room of the token at which it starts. -/
theorem room_of_opened (opened : closes place (Position.kind start) = false)
    : room place start = room place start.tail + 1 := by
  cases start with
  | nil => cases place <;> cases opened
  | cons token rest =>
      have opened : closes place token.kind = false := opened
      simp [room, opened]

/-- There is no room for an attempt at a token that closes the place. -/
theorem room_of_closed (closed : closes place (Position.kind start) = true)
    : room place start = room place start.tail := by
  cases start with
  | nil => rfl
  | cons token rest =>
      have closed : closes place token.kind = true := closed
      simp [room, closed]

theorem room_le_of_suffix (inside : part <:+ start) : room place part ≤ room place start :=
  inside.sublist.countP_le

theorem room_tail_le (position : Position) : room place position.tail ≤ room place position :=
  room_le_of_suffix (List.tail_suffix position)

/-- Inside of a block there is room wherever there is in a place around it, but not at closing
braces. So on the way to a part no more of it is lost in the block than in that place.
-/
theorem room_block_add_le (place : Place) (inside : part <:+ start)
    : room .block start + room place part ≤ room place start + room .block part := by
  obtain ⟨passed, rfl⟩ := inside
  have fewer : room .block passed ≤ room place passed := by
    refine List.countP_mono_left fun token _ opened => ?_
    cases place with
    | block => exact opened
    | program =>
        simp only [closes, Bool.not_eq_true', decide_eq_false_iff_not, not_or] at opened ⊢
        exact ⟨opened.1, fun both => absurd both.1 (by decide)⟩
  simp only [room, List.countP_append] at fewer ⊢
  omega

-----------------------------------------------------------------------------------------
-- Attempts in a task
-----------------------------------------------------------------------------------------

/-- The course on which reports and statements are paid for with the room in blocks. The token at
which a task starts is not spent, as the attempt at a statement that starts there takes it.
-/
def attempts : Course where
  Mark := Nat
  here position := room .block position.tail
  behind position := room .block position.tail
  laden n left := n + left
  spans start reports left := reports.length + left ≤ start
  breaks start reports _ position := reports.length + room .block position.tail ≤ start
  laden_zero := Nat.zero_add
  laden_laden m n left := (Nat.add_assoc m n left).symm
  refl left := by simp
  trans first second := by
    rw [List.length_append]
    omega
  trans_breaks first second := by
    rw [List.length_append]
    omega
  spans_laden spans n := by omega
  breaks_laden breaks n := by omega
  pass position := by simp
  enter position := by simpa using room_tail_le position.tail
  unexpected _ _ := by simp
  noOperand _ _ := by simp
  integerTooLarge _ _ _ := by simp

/-- The statements of a place and the reports on them are at most as many as the tokens that are
passed, if each single attempt keeps to the course.
-/
private theorem attempts_statements (place : Place) (start : Position)
    (keeps : ∀ part, part <:+ start → attempts.Keeps (.statement part))
    : (readStatements place start).diagnostics.toList.length
        + StatementCount.statements (readStatements place start).value
        + room place (readStatements place start).position
      ≤ room place start := by
  induction start using readStatements_induction place with
  | closed start closed =>
      obtain ⟨values, positions, diagnostics⟩ := readStatements_of_closed closed
      rw [values, positions, diagnostics]
      simp
  | read start s opened found ih =>
      have suffix := (readStatement start).suffix
      obtain ⟨values, positions, diagnostics⟩ := readStatements_of_ok opened found
      rw [values, positions, diagnostics, List.length_append, StatementCount.statements_cons]
      have first := (keeps start (List.suffix_refl _)).full s found
      have others := ih fun part inside => keeps part (inside.trans (tail_suffix suffix))
      have paid := room_of_opened opened
      have transfer := room_block_add_le place (suffix_tails suffix)
      simp only [attempts] at first
      omega
  | closing start error opened broken closing =>
      have suffix := (readStatement start).suffix
      obtain ⟨values, positions, diagnostics⟩ :=
        readStatements_of_closing opened broken closing
      rw [values, positions, diagnostics, List.length_append, StatementCount.statements_nil]
      have first := (keeps start (List.suffix_refl _)).broken error broken
      obtain ⟨rfl, closes_block⟩ := closing
      -- The closing brace at which the block ends takes no room, so that of the report is paid for
      -- by the token at which the statement started.
      have closed : closes .block (Position.kind (skip (readStatement start).position)) = true := by
        rw [closes_block]
        rfl
      have paid := room_of_opened opened
      have stays := room_of_closed closed
      have further : room .block (skip (readStatement start).position).tail
          ≤ room .block (readStatement start).position.tail :=
        room_le_of_suffix (suffix_tails (skip_suffix _))
      simp only [attempts] at first
      simp only [List.length_singleton]
      omega
  | skipped start error opened broken goes_on ih =>
      have suffix := (readStatement start).suffix
      have skipped := skip_suffix (readStatement start).position
      obtain ⟨values, positions, diagnostics⟩ :=
        readStatements_of_skipped opened broken goes_on
      rw [values, positions, diagnostics, List.length_append, List.length_cons]
      have first := (keeps start (List.suffix_refl _)).broken error broken
      have others := ih fun part inside =>
        keeps part (inside.trans (tail_suffix (skipped.trans suffix)))
      have paid := room_of_opened opened
      have transfer := room_block_add_le place (suffix_tails suffix)
      have further : room place (skip (readStatement start).position).tail
          ≤ room place (readStatement start).position.tail :=
        room_le_of_suffix (suffix_tails skipped)
      simp only [attempts] at first
      omega

private theorem attempts_block (start : Position)
    (ih : ∀ task, lower task (.block start) → attempts.Keeps task)
    : attempts.Keeps (.block start) := by
  have inner := attempts_statements .block start.tail fun part inside =>
    ih (.statement part) (lower_of_rank (inside.trans (List.tail_suffix _)) (by simp))
  have left : room .block (readStatements .block start.tail).position.tail
      ≤ room .block (readStatements .block start.tail).position :=
    room_tail_le _
  rw [Course.Keeps, readBlock_eq]
  constructor
  · intro ss found
    dsimp only at found ⊢
    split at found
    · cases found
    · cases found
      simp only [attempts, Reading.within]
      omega
  · intro error _
    simp only [attempts, Reading.within]
    omega

/-- Every task keeps to the course of attempts. -/
theorem keeps_attempts (task : Task) : attempts.Keeps task :=
  attempts.keeps attempts_block task

end Parsing

open Parsing

/-- At the end of a source nothing is read or reported. -/
theorem Parser.program_of_ended {parser : Parser} (ended : parser.position = [])
    : parser.program = ([], parser) := by
  obtain ⟨position, diagnostics⟩ := parser
  cases ended
  simp [Parser.program]

/-- On every source text reading ends, as no task is read for itself and there is no endless descent
into tasks. It ends at the end of the source, where nothing is left to read or to report. There are
no more errors and statements, with those in all blocks, than tokens in front of the end.
-/
theorem parse_ends_and_counts (source : String)
    : (WellFounded fun part task : Task => part ∈ task.asked)
      ∧ (Parser.ofString source).program.2.position = []
      ∧ (Parser.ofString source).program.2.program = ([], (Parser.ofString source).program.2)
      ∧ (parse source).errors.length + StatementCount.statements (parse source).program
        ≤ (tokenize source).countP (·.kind ≠ .endOfInput) := by
  have ended : (Parser.ofString source).program.2.position = [] :=
    position_readStatements_words source
  refine ⟨asked_wellFounded, ended, Parser.program_of_ended ended, ?_⟩
  have counted := attempts_statements .program (words source) fun part _ =>
    keeps_attempts (.statement part)
  have within : room .program (words source)
      ≤ (tokenize source).countP (·.kind ≠ .endOfInput) := by
    rw [tokenize, List.countP_append]
    refine Nat.le_trans (List.countP_mono_left fun token _ opened => ?_) (Nat.le_add_right ..)
    simpa [closes] using opened
  rw [Parsed.errors, List.length_map, diagnostics_parse, program_parse]
  omega

end Guion
