import Guion.Interpreter

/-! The command line: a command, the file it is for, and the limit on nested calls.

The limit may be set in front of the command and behind it, once in each place. A word that is
taken for a value is only looked at when the next option or file follows, or at the end, so that a
mistake further on may be reported in its place.
-/

namespace Guion.Command

/-- What can be done with a source file. -/
inductive FileCommand where
  | run
  | check
  | tokens
deriving DecidableEq, Repr

/-- The commands. -/
inductive Name where
  | onFile (command : FileCommand)
  | repl
deriving DecidableEq, Repr

namespace Name

def all : List Name := [.onFile .run, .onFile .check, .onFile .tokens, .repl]

theorem mem_all (name : Name) : name ∈ all := by
  rcases name with command | _
  · cases command <;> decide
  · decide

def text : Name → String
  | .onFile .run => "run"
  | .onFile .check => "check"
  | .onFile .tokens => "tokens"
  | .repl => "repl"

def ofText? (text : String) : Option Name :=
  all.find? fun name => name.text == text

end Name

/-- A command with the file that it is for. -/
inductive Action where
  | onFile (command : FileCommand) (file : String)
  | repl
deriving DecidableEq, Repr

/-- What is to be done, and the limit on nested calls. -/
structure Invocation where
  action : Action
  limit : Nat
deriving DecidableEq, Repr

/-- Why nothing is done: help or the version is asked for, or the arguments make no sense. -/
inductive Refusal where
  | help
  | version
  | noArguments
  | noCommand
  | unknownCommand
  | noFile
  | unknownArgument
  | surplusValue
  | emptyValue
  | invalidLimit
  | repeatedLimit
deriving DecidableEq, Repr

/-- The largest limit. -/
def maxLimit : Nat := 0xffffffffffffffff

/-- Reads a limit: decimal digits, with a plus sign in front of them or none. -/
def readLimit (text : String) : Except Refusal Nat :=
  let digits :=
    match text.toList with
    | '+' :: digits => digits
    | digits => digits
  let value := digits.foldl (fun value c => 10 * value + (c.toNat - '0'.toNat)) 0
  if digits.isEmpty || !digits.all Char.isDigit || maxLimit < value then
    .error .invalidLimit
  else
    .ok value

/-- A value that has been read, but not looked at. -/
inductive Pending where
  /-- Nothing is left to look at. -/
  | nothing
  /-- The option for the limit, with its value if that has been read. -/
  | limit (value : Option String)
  | file (name : String)
deriving DecidableEq, Repr

/-- What has been read of the words in front of the command, or of those behind it. -/
structure Reading where
  limit : Option Nat
  file : Option String
  pending : Pending
  /-- No word is an option any more. -/
  onlyValues : Bool

namespace Reading

def start : Reading :=
  ⟨none, none, .nothing, false⟩

/-- Sets the limit, which can be done once. -/
def setLimit (reading : Reading) (text : String) : Except Refusal Reading :=
  if reading.limit.isSome then
    .error .repeatedLimit
  else do
    let limit ← readLimit text
    return { reading with limit := some limit, pending := .nothing }

/-- Looks at the value that has been read last. -/
def settle (reading : Reading) : Except Refusal Reading :=
  match reading.pending with
  | .nothing => .ok reading
  | .limit none => .error .emptyValue
  | .limit (some text) => reading.setLimit text
  | .file name =>
    if name.isEmpty then
      .error .emptyValue
    else
      .ok { reading with file := some name, pending := .nothing }

/-- Whether the next word is the value of an option, unless it is an option itself. -/
def wantsValue (reading : Reading) : Bool :=
  reading.pending == .limit none

/-- Whether a file has been named. -/
def hasFile (reading : Reading) : Bool :=
  match reading.pending with
  | .file _ => true
  | _ => reading.file.isSome

end Reading

/-- What a word is by its form. -/
inductive Word where
  | help
  | version
  /-- The option for help with a value, which it does not take. -/
  | valuedHelp
  /-- The option for the version with a value, which it does not take. -/
  | valuedVersion
  | limit (value : Option String)
  | separator
  | unknownOption
  | plain

/-- The name of the option for the limit. -/
def limitOption : String := "--max-call-depth"

/-- The value of an option that is written with it, behind an equals sign. -/
def attached? (option word : String) : Option String :=
  let front := (option ++ "=").toList
  if front.isPrefixOf word.toList then
    some (String.ofList (word.toList.drop front.length))
  else
    none

/-- The form of a word. Of options in one letter only the first counts, as none takes a value. -/
def Word.of (word : String) : Word :=
  if word == "--" then .separator
  else if word == "--help" then .help
  else if word == "--version" then .version
  else if word == limitOption then .limit none
  else
    match word.toList with
    | '-' :: '-' :: _ =>
      match attached? limitOption word with
      | some value => .limit (some value)
      | none =>
        if (attached? "--help" word).isSome then .valuedHelp
        else if (attached? "--version" word).isSome then .valuedVersion
        else .unknownOption
    | '-' :: 'h' :: _ => .help
    | '-' :: 'V' :: _ => .version
    | '-' :: _ :: _ => .unknownOption
    | _ => .plain

/-- Reads an option that sets the limit, with its value behind an equals sign or to follow. -/
def Reading.option (reading : Reading) (value : Option String) : Except Refusal Reading := do
  let reading ← reading.settle
  match value with
  | none => return { reading with pending := .limit none }
  | some text => reading.setLimit text

/-- Refuses with an answer that was asked for, unless the words in front of it make no sense. -/
def Reading.answer {α : Type} (reading : Reading) (refusal : Refusal) : Except Refusal α :=
  match reading.settle with
  | .error mistake => .error mistake
  | .ok _ => .error refusal

/-- Reads the words behind a command. -/
def readRest (name : Name) (reading : Reading) : List String → Except Refusal Reading
  | [] => reading.settle
  | word :: words =>
    match if reading.onlyValues then .plain else Word.of word with
    | .separator => readRest name { reading with onlyValues := true } words
    | .help => reading.answer .help
    | .limit value => do readRest name (← reading.option value) words
    | .valuedHelp => .error .surplusValue
    | .version | .valuedVersion | .unknownOption => .error .unknownArgument
    | .plain =>
      if reading.wantsValue && !reading.onlyValues then
        readRest name { reading with pending := .limit (some word) } words
      else if name == .repl || reading.hasFile then
        .error .unknownArgument
      else do
        readRest name { ← reading.settle with pending := .file word } words

/-- The command of a name, with the file that has been read if it needs one. -/
def Reading.action (reading : Reading) : Name → Except Refusal Action
  | .repl => .ok .repl
  | .onFile command =>
    match reading.file with
    | some file => .ok (.onFile command file)
    | none => .error .noFile

/-- Help on a command, on all commands, or on help. -/
def readHelp : List String → Refusal
  | [] => .help
  | [topic] =>
    if topic == "help" || (Name.ofText? topic).isSome then .help else .unknownCommand
  | _ => .unknownCommand

/-- Reads all words, from those in front of the command on. -/
def readWords (reading : Reading) : List String → Except Refusal Invocation
  | [] => do
    let reading ← reading.settle
    .error (if reading.limit.isSome then .noCommand else .noArguments)
  | word :: words =>
    if reading.onlyValues then
      .error
        (if word == "help" || (Name.ofText? word).isSome then .unknownArgument
        else .unknownCommand)
    else
      match Word.of word with
      | .separator => readWords { reading with onlyValues := true } words
      | .help => reading.answer .help
      | .version => reading.answer .version
      | .valuedHelp | .valuedVersion => .error .surplusValue
      | .limit value => do readWords (← reading.option value) words
      | .unknownOption => .error .unknownArgument
      | .plain =>
        if reading.wantsValue then
          readWords { reading with pending := .limit (some word) } words
        else if word == "help" then
          .error (readHelp words)
        else
          match Name.ofText? word with
          | none => .error .unknownCommand
          | some name => do
            -- Mistakes behind the command are reported before those in front of it.
            let rest ← readRest name .start words
            let action ← rest.action name
            let reading ← reading.settle
            return ⟨action, (rest.limit <|> reading.limit).getD defaultLimit⟩

/-- Reads the arguments of the program. -/
def readArguments (words : List String) : Except Refusal Invocation :=
  readWords .start words

end Guion.Command
