import Guion.Recursion
import Guion.Text.Blank
import Guion.Text.Printable
import Guion.Text.Extender
import Guion.Text.Quoted
import Guion.Text.Escape
import Guion.Token.Lexer
import Guion.Program.Text
import Guion.Rope
import Guion.Program.Equality
import Guion.Parsing.Equations
import Guion.Program.Parser
import Guion.Value.Operators
import Guion.Heap
import Guion.Store
import Guion.Evaluation.Outcome
import Guion.Evaluation.Equations
import Guion.Interpreter
import Guion.Session
import Guion.Journal
import Guion.Editor.Prompt
import Guion.Editor.Completeness
import Guion.Editor.Highlight
import Guion.Command.Output
import Guion.Main
import Guion.Proofs.Integer.Numeral
import Guion.Proofs.Parsing.Clean
import Guion.Proofs.Grammar.Stratified
import Guion.Proofs.Parsing.Soundness
import Guion.Proofs.Parsing.Completeness
import Guion.Proofs.Program.Computation
import Guion.Proofs.Parsing.Unambiguous
import Guion.Proofs.Grammar.Flat
import Guion.Proofs.Token.Lexed
import Guion.Proofs.Parsing.Acceptance
import Guion.Proofs.Program.Gathering
import Guion.Proofs.Evaluation.Frame
import Guion.Proofs.Parsing.Validity
import Guion.Proofs.Text.Quoted
import Guion.Proofs.Token.Shape
import Guion.Proofs.Program.Printed
import Guion.Proofs.Program.RoundTrip
import Guion.Proofs.Evaluation.Rules
import Guion.Proofs.Evaluation.Termination
import Guion.Proofs.Evaluation.ErrorFree
import Guion.Proofs.Evaluation.Limit
import Guion.Proofs.Token.Tiling
import Guion.Proofs.Editor.Delimiters
import Guion.Proofs.Grammar.Nesting
import Guion.Proofs.Editor.Readiness
import Guion.Proofs.Parsing.Likeness
import Guion.Proofs.Parsing.Congruence
import Guion.Proofs.Parsing.Recovery
import Guion.Proofs.Token.Concatenation
import Guion.Proofs.Program.Segments
import Guion.Proofs.Parsing.Braces
import Guion.Proofs.Value.Operators
import Guion.Proofs.Heap.Held
import Guion.Proofs.Evaluation.Moments
import Guion.Proofs.Evaluation.Invariant
import Guion.Proofs.Session.Lines
import Guion.Proofs.Session.Reachable
import Guion.Proofs.Heap.Renaming
import Guion.Proofs.Evaluation.Renaming
import Guion.Proofs.Session.Known
import Guion.Proofs.Session.Repetition
import Guion.Proofs.Session.Errors
import Guion.Proofs.Session.Functions
import Guion.Proofs.Token.Lexical
import Guion.Proofs.Program.Layout
import Guion.Proofs.Integer.Division
import Guion.Proofs.Evaluation.Arithmetic
import Guion.Proofs.Evaluation.Context
import Guion.Proofs.Heap.History
import Guion.Proofs.Parsing.Course
import Guion.Proofs.Parsing.Attempts
import Guion.Proofs.Parsing.Provenance
import Guion.Proofs.Evaluation.Counter
import Guion.Proofs.Editor.Painting
import Guion.Proofs.Session.Chains
import Guion.Proofs.Evaluation.Unread
import Guion.Proofs.Evaluation.Trace
import Guion.Proofs.Session.Identity
import Guion.Proofs.Token.Literal
