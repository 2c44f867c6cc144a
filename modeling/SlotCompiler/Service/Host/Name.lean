import SlotCompiler.Service.Host.Fold
import SlotCompiler.Service.Host.Punycode
import SlotCompiler.Text.Direction
import SlotCompiler.Text.Normal
import SlotCompiler.Text.Quoted

namespace SlotCompiler.Service.Host

open CodePoint (char)

def mark : Text := "xn--"

inductive LabelFault where
  | emptyOrLong
  | long
  | marked
  | refused (c : CodePoint)
  -- A label with code points that are written from right to left has others that are not, or does
  -- not begin and end with one.
  | mixedDirections
  | openEnd
deriving DecidableEq, Repr

def LabelFault.message : LabelFault → Text
  | emptyOrLong => "label empty or too long"
  | long => "label too long"
  | marked => "Label starts with ACE prefix"
  | refused c => "Invalid character " ++ Text.quoted [c]
  | mixedDirections => "Violation of BIDI requirement 2"
  | openEnd => "Violation of BIDI requirement 3"

def checkDirections (label : Text) : Except LabelFault Unit := do
  let turns (c : CodePoint) : Bool := Text.rightToLeft.holds c.toNat
  if label.any turns then
    if label.any fun c => Text.leftToRight.holds c.toNat then throw .mixedDirections
    unless label.head?.any turns && label.getLast?.any turns do throw .openEnd

def prepare (label : Text) : Except LabelFault Text := do
  let kept := label.filter fun c => !dropped.holds c.toNat
  let form := Text.normal (kept.flatMap foldTable.image)
  match form.find? fun c => refused.holds c.toNat with
  | some c => throw (.refused c)
  | none =>
    checkDirections form
    return form

def checkSize (label : Text) : Except LabelFault Text :=
  if label.isEmpty || 64 ≤ label.length then .error .emptyOrLong else .ok label

def encodeLabel (label : Text) : Except LabelFault Text := do
  if label.all (·.isAscii) then checkSize label
  else
    let form ← prepare label
    if form.all (·.isAscii) then checkSize form
    else if mark.isPrefixOf form then throw .marked
    else checkSize (mark ++ Punycode.encode form)

def isPoint (c : CodePoint) : Bool :=
  c == char '.' || c.toNat == 0x3002 || c.toNat == 0xff0e || c.toNat == 0xff61

-- A name in ASCII. The last label may be empty, and so may be the whole name.
def encode (name : Text) : Except LabelFault Text := do
  if name.all (·.isAscii) then
    let labels := name.splitOn (char '.')
    labels.dropLast.forM fun label => discard (checkSize label)
    if labels.getLast?.any fun label => 64 ≤ label.length then throw .long
    return name
  else
    let labels := name.splitOnP isPoint
    let isOpen := labels.getLast? == some []
    let encoded ← (if isOpen then labels.dropLast else labels).mapM encodeLabel
    return Text.join "." encoded ++ (if isOpen then "." else "" : Text)

inductive DecodeFault where
  | label (fault : LabelFault)
  | punycode (fault : Punycode.Fault)
  | otherForm (written form : Text)
deriving DecidableEq, Repr

def DecodeFault.message : DecodeFault → Text
  | label fault => "decoding with 'idna' codec failed (UnicodeError: " ++ fault.message ++ ")"
  | punycode fault =>
    "decoding with 'idna' codec failed (UnicodeError: decoding with 'punycode' codec failed " ++
      "(UnicodeError: " ++ fault.message ++ "))"
  | otherForm written form =>
    "('IDNA does not round-trip', b" ++ written.quoted ++ ", b" ++ form.quoted ++ ")"

def decodeLabel (label : Text) : Except DecodeFault Text := do
  if mark.isPrefixOf label then
    let decoded ← (Punycode.decode (label.drop mark.length)).mapError .punycode
    let form ← (encodeLabel decoded).mapError .label
    if form == label.map (·.asciiLower) then return decoded else throw (.otherForm label form)
  else return label

def decode (name : Text) : Except DecodeFault Text := do
  return Text.join "." (← (name.splitOn (char '.')).mapM decodeLabel)

end SlotCompiler.Service.Host
