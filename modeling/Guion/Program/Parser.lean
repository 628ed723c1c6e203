import Guion.Parsing.Rules
import Guion.Token.Lexer

/-! The parser: programs from source texts. -/

namespace Guion

/-- A parser over a source text: where it stands, and what it has reported so far. -/
structure Parser where
  position : Position
  diagnostics : List Diagnostic

namespace Parser

open Parsing

/-- The parser at the start of a source text. -/
def ofString (source : String) : Parser :=
  ⟨words source, []⟩

/-- Reads all statements that are left. Broken ones are reported and left out. -/
def program (parser : Parser) : Program × Parser :=
  let reading := readStatements .program parser.position
  (reading.value, ⟨reading.position, parser.diagnostics ++ reading.diagnostics.toList⟩)

/-- The errors reported so far. -/
def errors (parser : Parser) : List ParseError :=
  parser.diagnostics.map Diagnostic.error

end Parser

/-- A program with what is wrong with its source text. It is partial if there is an error. -/
structure Parsed where
  program : Program
  diagnostics : List Diagnostic

namespace Parsed

def errors (parsed : Parsed) : List ParseError :=
  parsed.diagnostics.map Diagnostic.error

end Parsed

/-- Reads a whole source text. -/
def parse (source : String) : Parsed :=
  let (program, parser) := (Parser.ofString source).program
  ⟨program, parser.diagnostics⟩

end Guion
