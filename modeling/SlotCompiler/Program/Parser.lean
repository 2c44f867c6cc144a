import SlotCompiler.Program
import SlotCompiler.Step
import SlotCompiler.Token

namespace SlotCompiler

-- The tokens still ahead, and how many were passed.
structure Cursor where
  passed : Nat := 0
  rest : List Token
deriving DecidableEq

abbrev Parser := Step Fault Cursor

namespace Parser

def peek : Parser Token := do
  match (← get).rest with
  | token :: _ => return token
  | [] => throw .outOfTokens

def advance : Parser Token := do
  let token ← peek
  if token.kind != .endOfInput then
    modify fun cursor => { passed := cursor.passed + 1, rest := cursor.rest.tail }
  return token

-- The fault for a token that is not what is expected. Describing the token may fail first.
def mismatch (expected : Text) (token : Token) : Fault :=
  match token.describe with
  | .ok found => .report .expectedToken token.span [.text expected, .text found]
  | .error fault => fault

def expect (kind : Token.Kind) (expected : Text) : Parser Token := do
  let token ← peek
  if token.kind = kind then advance else throw (mismatch expected token)

def expectKind (kind : Token.Kind) : Parser Token := expect kind kind.expectation

def name : Parser Name := do
  let token ← expect .identifier "identifier"
  return ⟨token.value, token.span⟩

def expr : Parser Expr := do
  let token ← peek
  match token.kind with
  | .number => do
    let _ ← advance
    return .literal token.value .int token.span
  | .string => do
    let _ ← advance
    return .literal token.value .string token.span
  | .identifier => return .name (← name)
  | _ => throw (mismatch "literal or identifier" token)

def call : Parser Statement := do
  let callee ← name
  let _ ← expectKind .openParen
  let argument ← expr
  let _ ← expectKind .closeParen
  return .call callee argument

def binding : Parser Statement := do
  let _ ← expectKind .letKeyword
  let bound ← name
  let _ ← expectKind .assign
  let value ← expr
  let _ ← expectKind .semicolon
  return .binding bound value

def statement : Parser Statement := do
  let token ← peek
  match token.kind with
  | .identifier => do
    let s ← call
    let _ ← expectKind .semicolon
    return s
  | .letKeyword => binding
  | _ => throw (mismatch "identifier or let" token)

-- Statements up to the end of input. Each takes a token at least, so when as many steps as there
-- are tokens ahead are used up, no token is left.
def statements : (bound : Nat) → Parser (List Statement)
  | 0 => throw .outOfTokens
  | bound + 1 => do
    let token ← peek
    if token.kind = .endOfInput then return []
    let s ← statement
    return s :: (← statements bound)

def program : Parser Program := do
  statements (← get).rest.length

end Parser

def Program.ofTokens (tokens : List Token) : Except Fault Program :=
  (Parser.program.runFrom { rest := tokens }).1

end SlotCompiler
