import SlotCompiler.Text.Printable

namespace SlotCompiler.Text

open CodePoint (char)

def hexDigits : (width n : Nat) → Text
  | 0, _ => []
  | width + 1, n => hexDigits width (n / 16) ++ [char (Nat.digitChar (n % 16))]

-- The shortest of the three fixed-width escapes that holds the code point.
def codeEscape (n : Nat) : Text :=
  if n < 0x100 then "\\x" ++ hexDigits 2 n
  else if n < 0x10000 then "\\u" ++ hexDigits 4 n
  else "\\U" ++ hexDigits 8 n

def quotedPoint (quote c : CodePoint) : Text :=
  if c == quote || c == char '\\' then [char '\\', c]
  else if c == char '\t' then "\\t"
  else if c == char '\n' then "\\n"
  else if c == char '\r' then "\\r"
  else if isPrintable c then [c]
  else codeEscape c.toNat

def quoteFor (t : Text) : CodePoint :=
  if t.contains (char '\x27') && !t.contains (char '\x22') then '\x22' else '\x27'

def quoted (t : Text) : Text :=
  let quote := quoteFor t
  quote :: t.flatMap (quotedPoint quote) ++ [quote]

def quotedList (texts : List Text) : Text := "[" ++ join ", " (texts.map quoted) ++ "]"

end SlotCompiler.Text
