import SlotCompiler.Json.Basic
import SlotCompiler.Text.Wide

namespace SlotCompiler.Json

open CodePoint (char)

def unitEscape (n : Nat) : Text := "\\u" ++ Text.hexDigits 4 n

def writtenPoint (c : CodePoint) : Text :=
  if c == char '\x22' || c == char '\\' then [char '\\', c]
  else if c == char '\n' then "\\n"
  else if c == char '\r' then "\\r"
  else if c == char '\t' then "\\t"
  else if 0x20 ≤ c.toNat && c.toNat < 0x7f then [c]
  else if c.toNat < 0x10000 then unitEscape c.toNat
  else
    let (high, low) := Text.Utf16.halves c.toNat
    unitEscape high ++ unitEscape low

def writtenString (t : Text) : Text := "\"" ++ t.flatMap writtenPoint ++ "\""

mutual

def write : Json → Text
  | null => "null"
  | bool b => if b then "true" else "false"
  | int n => .ofInt n
  | float x => x.text
  | str t => writtenString t
  | arr items => "[" ++ Text.join "," (writeItems items) ++ "]"
  | obj members => "\x7b" ++ Text.join "," (writeMembers members) ++ "\x7d"

def writeItems : List Json → List Text
  | [] => []
  | item :: rest => write item :: writeItems rest

def writeMembers : List (Text × Json) → List Text
  | [] => []
  | (key, value) :: rest => (writtenString key ++ ":" ++ write value) :: writeMembers rest

end

end SlotCompiler.Json
