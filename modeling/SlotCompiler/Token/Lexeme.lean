import SlotCompiler.Text.Blank
import SlotCompiler.Text.Word
import SlotCompiler.Token

namespace SlotCompiler.Token

open CodePoint (char)

inductive Lexeme where
  | comment
  | newline
  | string
  | openQuote
  | word
  | digits
  | punctuation (kind : Kind)
  | blank
  | stray
deriving DecidableEq, Repr

namespace Lexeme

def punctuation? : CodePoint → Option Kind
  | char ';' => some .semicolon
  | char '(' => some .openParen
  | char ')' => some .closeParen
  | char '=' => some .assign
  | _ => none

def inString (c : CodePoint) : Bool := c != char '\x22' && c != char '\n'

-- The lexeme at the start of `c :: rest`, with the characters it takes after `c`.
def first (c : CodePoint) (rest : Text) : Lexeme × Text :=
  if c == char '#' then (comment, rest.takeWhile (· != char '\n'))
  else if c == char '\n' then (newline, [])
  else if c == char '\x22' then
    let body := rest.takeWhile inString
    match rest.drop body.length with
    | char '\x22' :: _ => (string, body ++ [char '\x22'])
    | _ => (openQuote, body)
  else if Text.isWordStart c then (word, rest.takeWhile Text.isWord)
  else if c.isAsciiDigit then (digits, rest.takeWhile CodePoint.isAsciiDigit)
  else
    match punctuation? c with
    | some kind => (punctuation kind, [])
    | none => if Text.isBlank c then (blank, []) else (stray, [])

end Lexeme

def maxNumber : Nat := 18446744073709551615

def keyword (word : Text) : Kind :=
  if word = "let" then .letKeyword
  else if word = "return" then .returnKeyword
  else .identifier

-- The token of a lexeme that starts with `c` and goes on with `more`, if it makes one.
def ofLexeme (lexeme : Lexeme) (c : CodePoint) (more : Text) (span : Span) :
    Except Fault (Option Token) :=
  let text : Text := c :: more
  match lexeme with
  | .comment | .newline | .blank => .ok none
  | .string => .ok (some ⟨.string, .text more.dropLast, span⟩)
  | .openQuote => .error (.report .unmatched span [.text "\""])
  | .word =>
    if Text.isNameStart c then .ok (some ⟨keyword text, .text text, span⟩)
    else .error (.report .invalidToken { span with length := 1 } [.text [c]])
  | .digits =>
    if Number.digitLimit < more.length + 1 then .error (.digitRun (more.length + 1))
    else
      let n := text.decimalValue
      if maxNumber < n then .error (.report .invalidToken span [.text text])
      else .ok (some ⟨.number, .int n, span⟩)
  | .punctuation kind => .ok (some ⟨kind, .text text, span⟩)
  | .stray => .error (.report .invalidToken span [.text text])

end SlotCompiler.Token
