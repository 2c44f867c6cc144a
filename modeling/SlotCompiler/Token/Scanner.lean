import SlotCompiler.Token.Lexeme

namespace SlotCompiler.Token

structure Mark where
  line : Nat := 0
  start : Nat := 0
deriving DecidableEq, Repr

structure Scanned where
  tokens : List Token
  mark : Mark
  fault : Option Fault
deriving DecidableEq

def Scanned.prepend (token : Option Token) (s : Scanned) : Scanned :=
  { s with tokens := token.toList ++ s.tokens }

def Mark.after (mark : Mark) (lexeme : Lexeme) (offset : Nat) : Mark :=
  if lexeme = .newline then ⟨mark.line + 1, offset⟩ else mark

def Mark.span (mark : Mark) (offset length : Nat) : Span :=
  ⟨mark.line, (offset : Int) - mark.start, length⟩

-- Scanning from `offset` on; `skip` counts the characters that belong to the lexeme already read.
def scan (mark : Mark) (offset : Nat) : (skip : Nat) → Text → Scanned
  | _, [] => ⟨[], mark, none⟩
  | skip + 1, _ :: rest => scan mark (offset + 1) skip rest
  | 0, c :: rest =>
    let (lexeme, more) := Lexeme.first c rest
    match ofLexeme lexeme c more (mark.span offset (more.length + 1)) with
    | .ok token =>
      (scan (mark.after lexeme (offset + 1)) (offset + 1) more.length rest).prepend token
    | .error fault => ⟨[], mark, some fault⟩

-- End of input borrows the last token's span, so that messages about it point at some text.
def endToken (tokens : List Token) : Token :=
  ⟨.endOfInput, .text [], (tokens.getLast?.map (·.span)).getD .zero⟩

structure Scanner where
  mark : Mark := {}
  tokens : List Token := []
deriving DecidableEq

-- Reads one more text. The tokens before a fault are kept.
def Scanner.read (s : Scanner) (code : Text) : Except Fault Unit × Scanner :=
  let found := scan s.mark 0 0 code
  let tokens := s.tokens ++ found.tokens
  match found.fault with
  | some fault => (.error fault, ⟨found.mark, tokens⟩)
  | none => (.ok (), ⟨found.mark, tokens ++ [endToken tokens]⟩)

def tokenize (code : Text) : Except Fault (List Token) :=
  match Scanner.read {} code with
  | (.ok (), s) => .ok s.tokens
  | (.error fault, _) => .error fault

end SlotCompiler.Token
