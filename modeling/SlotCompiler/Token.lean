import SlotCompiler.Fault

namespace SlotCompiler

namespace Token

-- `other` is a kind that no source text has.
inductive Kind where
  | identifier
  | number
  | string
  | letKeyword
  | returnKeyword
  | assign
  | semicolon
  | openParen
  | closeParen
  | endOfInput
  | other (name : Text)
deriving DecidableEq, Repr

namespace Kind

def known : List Kind :=
  [identifier, number, string, letKeyword, returnKeyword, assign, semicolon, openParen, closeParen,
   endOfInput]

def name : Kind → Text
  | identifier => "IDENT"
  | number => "NUMBER"
  | string => "STRING"
  | letKeyword => "LET"
  | returnKeyword => "RETURN"
  | assign => "ASSIGN"
  | semicolon => "END"
  | openParen => "LPAREN"
  | closeParen => "RPAREN"
  | endOfInput => "EOF"
  | other name => name

def ofName (t : Text) : Kind := (known.find? (·.name == t)).getD (other t)

-- How a token is written in a source text, for the kinds that are always written alike.
def spelling? : Kind → Option Text
  | letKeyword => some "let"
  | returnKeyword => some "return"
  | assign => some "="
  | semicolon => some ";"
  | openParen => some "("
  | closeParen => some ")"
  | _ => none

def expectation (k : Kind) : Text := "'" ++ k.spelling?.getD k.name ++ "'"

end Kind

end Token

structure Token where
  kind : Token.Kind
  value : Atom
  span : Span
deriving DecidableEq, Repr

namespace Token

def describe (t : Token) : Except Fault Text :=
  match t.kind with
  | .endOfInput => .ok "end of input"
  | .identifier => t.value.shown.map fun name => "identifier '" ++ name ++ "'"
  | .number => t.value.shown.map fun number => "integer " ++ number
  | .string => t.value.shown.map fun body => "string \"" ++ body ++ "\""
  | k =>
    match k.spelling? with
    | some s => .ok ("'" ++ s ++ "'")
    | none => .error (.unknownKind k.name)

end Token

end SlotCompiler
