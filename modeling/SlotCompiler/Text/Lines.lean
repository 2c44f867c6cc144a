import SlotCompiler.Text

namespace SlotCompiler.Text

open CodePoint (char)

def sourceLines (t : Text) : List Text := t.splitOn (char '\n')

-- Carriage returns at the end of a line belong to the line ending and are not shown.
def dropReturns (line : Text) : Text := (line.reverse.dropWhile (· == char '\r')).reverse

-- A carriage return, alone or before a line feed, is a line feed.
def lineFeeds : Text → Text
  | [] => []
  | char '\r' :: char '\n' :: rest => char '\n' :: lineFeeds rest
  | c :: rest => (if c == char '\r' then char '\n' else c) :: lineFeeds rest

def isLineBoundary (c : CodePoint) : Bool :=
  let n := c.toNat
  (0x0a ≤ n && n ≤ 0x0d) || (0x1c ≤ n && n ≤ 0x1e) || n == 0x85 || n == 0x2028 || n == 0x2029

-- The lines of a text without their boundaries; `line` is the current line, last code point first.
-- A boundary at the very end starts no further line.
def splitLinesFrom (line : Text) : Text → List Text
  | [] => if line.isEmpty then [] else [line.reverse]
  | char '\r' :: char '\n' :: rest => line.reverse :: splitLinesFrom [] rest
  | c :: rest =>
    if isLineBoundary c then line.reverse :: splitLinesFrom [] rest
    else splitLinesFrom (c :: line) rest

def splitLines (t : Text) : List Text := splitLinesFrom [] t

end SlotCompiler.Text
