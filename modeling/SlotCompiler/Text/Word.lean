import SlotCompiler.Text.Letter
import SlotCompiler.Text.Numeral

namespace SlotCompiler.Text

def isWord (c : CodePoint) : Bool :=
  c == .char '_' || isLetter c || isDecimalDigit c || isOtherNumeral c

-- Where a run of word characters may start: not at a decimal digit of any script.
def isWordStart (c : CodePoint) : Bool := isWord c && !isDecimalDigit c

-- Where a name may start. Of the other characters that start a word, only these are accepted.
def isNameStart (c : CodePoint) : Bool := c == .char '_' || isLetter c

end SlotCompiler.Text
