import SlotCompiler.Text.Normal.Combining
import SlotCompiler.Text.Normal.Composition
import SlotCompiler.Text.Normal.Decomposition

namespace SlotCompiler.Text

namespace Normal

-- Hangul syllables are made of a leading consonant, a vowel and perhaps a trailing consonant. They
-- are numbered by their parts.
namespace Hangul

def leading : Nat := 0x1100

def vowel : Nat := 0x1161

def trailing : Nat := 0x11a7

def syllable : Nat := 0xac00

def isSyllable (n : Nat) : Bool := syllable ≤ n && n < syllable + 19 * 21 * 28

def decompose (n : Nat) : List Nat :=
  let i := n - syllable
  let parts := [leading + i / 588, vowel + i % 588 / 28]
  if i % 28 == 0 then parts else parts ++ [trailing + i % 28]

def compose? (a b : Nat) : Option Nat :=
  if leading ≤ a && a < leading + 19 && vowel ≤ b && b < vowel + 21 then
    some (syllable + ((a - leading) * 21 + (b - vowel)) * 28)
  else if isSyllable a && (a - syllable) % 28 == 0 && trailing < b && b < trailing + 28 then
    some (a + (b - trailing))
  else none

end Hangul

def decompose (n : Nat) : List Nat :=
  if Hangul.isSyllable n then Hangul.decompose n else (decompositions.find? n).getD [n]

def sortMarks (marks : List Nat) : List Nat :=
  marks.mergeSort fun a b => combiningClass a ≤ combiningClass b

def order (marks : List Nat) : List Nat → List Nat
  | [] => sortMarks marks.reverse
  | c :: rest =>
    if combiningClass c == 0 then sortMarks marks.reverse ++ c :: order [] rest
    else order (c :: marks) rest

def compose? (a b : Nat) : Option Nat :=
  match compositions.runs.find? fun r => r.image == [a, b] with
  | some r => some r.first
  | none => Hangul.compose? a b

-- `base` is the code point that following ones may join, and `marks` are those that did not, last
-- first. A mark does not reach the base past one of the same or a higher class.
def compose (base : Nat) (marks : List Nat) : List Nat → List Nat
  | [] => base :: marks.reverse
  | c :: rest =>
    let isFree := match marks with
      | [] => true
      | mark :: _ => combiningClass mark < combiningClass c
    match if isFree then compose? base c else none with
    | some joined => compose joined marks rest
    | none =>
      if combiningClass c == 0 then base :: marks.reverse ++ compose c [] rest
      else compose base (c :: marks) rest

end Normal

def normal (t : Text) : Text :=
  match Normal.order [] (t.flatMap fun c => Normal.decompose c.toNat) with
  | [] => []
  | base :: rest => (Normal.compose base [] rest).map .ofNat

end SlotCompiler.Text
