import Guion.Session

/-! The journal: notes on what happens while a source text is read and run.

The parser looks one token ahead. So a malformed string literal is noted before an error that is
found on the token in front of it.
-/

namespace Guion

open Text

namespace Journal

/-- How much a note matters. -/
inductive Level where
  | debug
  | trace
deriving DecidableEq, Repr

def Level.name : Level → String
  | .debug => "DEBUG"
  | .trace => "TRACE"

/-- What a note is about. -/
inductive Topic where
  | tokens
  | programs
  | runs
deriving DecidableEq, Repr

def Topic.name : Topic → String
  | .tokens => "lpp::tokenizer"
  | .programs => "lpp::parser"
  | .runs => "lpp::runtime"

structure Entry where
  level : Level
  topic : Topic
  message : String
deriving DecidableEq, Repr

/-- The fault of a string literal that cannot be decoded. -/
def fault? (token : Token) : Option Escape.Fault :=
  if token.kind = .illegal then
    let lexeme := Lexeme.scan token.literal.toList
    match lexeme.kind, Escape.unescape lexeme.text with
    | .string, .error fault => some fault
    | _, _ => none
  else
    none

/-- Notes on the malformed string literals among some tokens. -/
def malformed (tokens : List Token) : List Entry :=
  tokens.filterMap fun token =>
    (fault? token).map fun fault =>
      let message := fault.message token.literal
      ⟨.trace, .tokens, s!"malformed string literal {token.literal}: {message}"⟩

/-- The note on an error. -/
def broken (diagnostic : Diagnostic) : Entry :=
  let literal := Quoted.quote Quoted.excerpt (Position.literal diagnostic.position)
  ⟨.debug, .programs, s!"parse error near {literal}: {diagnostic.error.message}"⟩

/-- Whether the parser has seen a token once it stands at a position. -/
def isSeen (position : Position) (token : Token) : Bool :=
  match position with
  | _ :: next :: _ => token.start ≤ next.start
  | _ => true

/-- Notes on the reading of some tokens that leads to the diagnostics, behind earlier `notes`. -/
def ofReading (notes : Array Entry) (tokens : List Token) : List Diagnostic → Array Entry
  | [] => notes ++ malformed tokens
  | diagnostic :: rest =>
    let (seen, unseen) := tokens.span (isSeen diagnostic.position)
    ofReading ((notes ++ malformed seen).push (broken diagnostic)) unseen rest

/-- The note on a call that was entered. -/
def call (closure : Closure) (depth : Nat) : Entry :=
  ⟨.trace, .runs, s!"call {closure.text} at depth {depth}"⟩

/-- Notes on a run that starts with an empty store. -/
def ofRun (outcome : Evaluation.Outcome Value) : List Entry :=
  let calls := outcome.store.calls.reverse.map fun (closure, depth) => call closure depth
  match outcome.result with
  | .error (.failure error) => calls ++ [⟨.debug, .runs, error.report⟩]
  | _ => calls

end Journal

/-- The value of a source text in a scope of its own, with the journal. -/
def interpretWithJournal (limit : Nat) (source : String)
    : Except (List ParseError) Value × List Journal.Entry :=
  let parsed := parse source
  let reading := (Journal.ofReading #[] (words source) parsed.diagnostics).toList
  if parsed.diagnostics.isEmpty then
    let (scope, store) := Store.empty.root
    let outcome := parsed.program.run limit scope store
    (.ok outcome.value, reading ++ Journal.ofRun outcome)
  else
    (.error parsed.errors, reading)

end Guion
