import Guion.Command.Output
import Guion.Editor.Completeness
import Guion.Editor.Prompt

/-! The program: runs a source file, checks it or lists its tokens, or reads inputs one by one. -/

namespace Guion.Command

/-- The text of a file. -/
def readSource (path : String) : IO (Except FileError String) := do
  try
    return decodeFile (← IO.FS.readBinFile path)
  catch
    | .noFileOrDirectory .. => return .error .notFound
    | .inappropriateType .. => return .error .directory
    | other => return .error (.other (toString other))

/-- Writes an output to the two streams. -/
def Output.write (output : Output) : IO Unit := do
  let stdout ← IO.getStdout
  stdout.putStr output.stdout
  stdout.flush
  let stderr ← IO.getStderr
  stderr.putStr output.stderr
  stderr.flush

open Editor

/-- Reads lines behind those that are `read` until they are a complete input. There is none at the
end of the stream.
-/
partial def readInput (stdin stdout : IO.FS.Stream) (read : String) : IO (Option String) := do
  stdout.putStr
    (if read.isEmpty then Prompt.left ++ Prompt.indicator else Prompt.continuation)
  stdout.flush
  let line ← stdin.getLine
  if line.isEmpty then
    return none
  else if isComplete (read ++ line) then
    return some (read ++ line)
  else
    readInput stdin stdout (read ++ line)

/-- Reads inputs and shows their values. -/
partial def converse (stdin stdout : IO.FS.Stream) (session : Session) : IO Unit := do
  match ← readInput stdin stdout "" with
  | none => return
  | some input =>
    if isExitCommand input then
      return
    let (result, session) := session.eval input
    (showResult result).write
    converse stdin stdout session

def usage : String :=
  "Usage: lpp [--max-call-depth N] run FILE | check FILE | tokens FILE | repl"

/-- Says why nothing is done. -/
def Refusal.answer (refusal : Refusal) : IO UInt32 := do
  match refusal with
  | .help =>
    (Output.line usage).write
    return 0
  | .version =>
    Command.version.write
    return 0
  | _ =>
    IO.eprintln usage
    return 2

/-- Does what the arguments ask for, and yields the exit code. -/
def start (words : List String) : IO UInt32 := do
  match readArguments words with
  | .error refusal => refusal.answer
  | .ok invocation =>
    match invocation.action with
    | .onFile command file => (command.perform invocation.limit (← readSource file)).write
    | .repl => converse (← IO.getStdin) (← IO.getStdout) (.new invocation.limit)
    return 0

end Guion.Command

def main (words : List String) : IO UInt32 :=
  Guion.Command.start words
