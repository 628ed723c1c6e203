/-! Tokens: the words, numbers, literals and signs of a source text. -/

namespace Guion

/-- The kinds of token. -/
inductive Token.Kind where
  | leftParen
  | rightParen
  | leftBrace
  | rightBrace
  | comma
  | semicolon
  | plus
  | minus
  | star
  | slash
  | bang
  | equal
  | greater
  | less
  | bangEqual
  | equalEqual
  | identifier
  | integer
  | string
  | letWord
  | functionWord
  | ifWord
  | elseWord
  | returnWord
  | trueWord
  | falseWord
  | illegal
  | endOfInput
deriving DecidableEq, Repr

namespace Token.Kind

/-- All kinds, in their order of declaration. -/
def all : List Kind :=
  [.leftParen, .rightParen, .leftBrace, .rightBrace, .comma, .semicolon, .plus, .minus, .star,
    .slash, .bang, .equal, .greater, .less, .bangEqual, .equalEqual, .identifier, .integer,
    .string, .letWord, .functionWord, .ifWord, .elseWord, .returnWord, .trueWord, .falseWord,
    .illegal, .endOfInput]

theorem mem_all (kind : Kind) : kind ∈ all := by
  cases kind <;> decide

/-- The name under which a listing of tokens shows the kind. -/
def name : Kind → String
  | .leftParen => "LeftParen"
  | .rightParen => "RightParen"
  | .leftBrace => "LeftBrace"
  | .rightBrace => "RightBrace"
  | .comma => "Comma"
  | .semicolon => "Semicolon"
  | .plus => "Plus"
  | .minus => "Minus"
  | .star => "Star"
  | .slash => "Slash"
  | .bang => "Bang"
  | .equal => "Equal"
  | .greater => "Greater"
  | .less => "Less"
  | .bangEqual => "BangEqual"
  | .equalEqual => "EqualEqual"
  | .identifier => "Identifier"
  | .integer => "Integer"
  | .string => "String"
  | .letWord => "Let"
  | .functionWord => "Function"
  | .ifWord => "If"
  | .elseWord => "Else"
  | .returnWord => "Return"
  | .trueWord => "True"
  | .falseWord => "False"
  | .illegal => "Illegal"
  | .endOfInput => "Eof"

/-- The one spelling of a sign or a reserved word. -/
def spelling? : Kind → Option String
  | .leftParen => some "("
  | .rightParen => some ")"
  | .leftBrace => some "\x7b"
  | .rightBrace => some "\x7d"
  | .comma => some ","
  | .semicolon => some ";"
  | .plus => some "+"
  | .minus => some "-"
  | .star => some "*"
  | .slash => some "/"
  | .bang => some "!"
  | .equal => some "="
  | .greater => some ">"
  | .less => some "<"
  | .bangEqual => some "!="
  | .equalEqual => some "=="
  | .letWord => some "variable"
  | .functionWord => some "procedimiento"
  | .ifWord => some "si"
  | .elseWord => some "si_no"
  | .returnWord => some "regresa"
  | .trueWord => some "verdadero"
  | .falseWord => some "falso"
  | .identifier | .integer | .string | .illegal | .endOfInput => none

/-- How a message speaks of a token of this kind. -/
def description (kind : Kind) : String :=
  match kind with
  | .identifier => "identifier"
  | .integer => "integer"
  | .string => "string"
  | .illegal => "illegal token"
  | .endOfInput => "end of input"
  | sign => "'" ++ sign.spelling?.getD sign.name ++ "'"

/-- The kinds of the reserved words. -/
def reserved : List Kind :=
  [.letWord, .functionWord, .ifWord, .elseWord, .returnWord, .trueWord, .falseWord]

/-- Whether tokens of this kind are reserved words. -/
def isReserved (kind : Kind) : Bool :=
  reserved.contains kind

/-- The kind of a word: a reserved word by its spelling, and any other word an identifier. -/
def ofWord (word : String) : Kind :=
  (reserved.find? fun kind => kind.spelling? == some word).getD .identifier

end Token.Kind

/-- A token with the bytes of the source that it takes, from `start` up to `stop`. The literal of
a string is the text it stands for, and that of any other token is its spelling.
-/
structure Token where
  kind : Token.Kind
  literal : String
  start : Nat
  stop : Nat
deriving DecidableEq, Repr

namespace Token

/-- The token behind the last byte of a source text. -/
def ending (position : Nat) : Token :=
  ⟨.endOfInput, "", position, position⟩

/-- The line that shows a token in a listing. -/
def description (token : Token) : String :=
  s!"Type: {token.kind.name}, Literal: {token.literal}"

end Token

end Guion
