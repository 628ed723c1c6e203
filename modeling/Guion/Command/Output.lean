import Guion.Session
import Guion.Command.Arguments

/-! What the commands write. Mistakes are reported in red on the error stream. -/

namespace Guion.Command

/-- The texts on the two streams. -/
structure Output where
  stdout : String
  stderr : String
deriving DecidableEq, Repr

namespace Output

def silent : Output := ⟨"", ""⟩

/-- One line on the output stream. -/
def line (text : String) : Output :=
  ⟨text ++ "\n", ""⟩

/-- One report on the error stream, in red. -/
def report (text : String) : Output :=
  ⟨"", "\x1b[31m" ++ text ++ "\x1b[0m\n"⟩

/-- One output behind the other. -/
def append (first second : Output) : Output :=
  ⟨first.stdout ++ second.stdout, first.stderr ++ second.stderr⟩

def concat (outputs : List Output) : Output :=
  outputs.foldl append silent

end Output

/-- Why a file cannot be read. -/
inductive FileError where
  | notFound
  | directory
  | notText
  | other (description : String)
deriving DecidableEq, Repr

namespace FileError

def message : FileError → String
  | .notFound => "No such file or directory (os error 2)"
  | .directory => "Is a directory (os error 21)"
  | .notText => "stream did not contain valid UTF-8"
  | .other description => description

def report (error : FileError) : String :=
  "io error: " ++ error.message

end FileError

/-- The text that a file holds. -/
def decodeFile (bytes : ByteArray) : Except FileError String :=
  match String.fromUTF8? bytes with
  | some text => .ok text
  | none => .error .notText

/-- How the value of an input is shown. -/
def showResult (result : Except (List ParseError) Value) : Output :=
  match result with
  | .ok .null => .silent
  | .ok (.error error) => .report (Value.error error).text
  | .ok value => .line value.text
  | .error errors => .report (ParseError.reportAll errors)

/-- What a command writes about a source text. -/
def FileCommand.output (command : FileCommand) (limit : Nat) (source : String) : Output :=
  match command with
  | .run => showResult ((Session.new limit).eval source).1
  | .check =>
    match (parse source).errors with
    | [] => .line "ok"
    | errors => .concat (errors.map fun error => .report error.report)
  | .tokens => .concat ((tokenize source).map fun token => .line token.description)

/-- What a command writes about a file. -/
def FileCommand.perform (command : FileCommand) (limit : Nat)
    (contents : Except FileError String)
    : Output :=
  match contents with
  | .ok source => command.output limit source
  | .error error => .report error.report

/-- The answer to a question for the version. -/
def version : Output :=
  .line "lpp 0.1.0"

end Guion.Command
