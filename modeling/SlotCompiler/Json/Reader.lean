import SlotCompiler.Json.Basic
import SlotCompiler.Number.Limit
import SlotCompiler.Text.Numeral
import SlotCompiler.Text.Utf8
import SlotCompiler.Text.Wide

namespace SlotCompiler.Json

open CodePoint (char)

inductive Container where
  | array
  | object
deriving DecidableEq, Repr

inductive ReadFault where
  | malformed
  | tooDeep (c : Container)
deriving DecidableEq, Repr

def isSpace (c : CodePoint) : Bool :=
  c == char ' ' || c == char '\t' || c == char '\n' || c == char '\r'

def skipSpace (t : Text) : Text := t.dropWhile isSpace

def hex4 (a b c d : CodePoint) : Option Nat := do
  return (((← a.hexValue?) * 16 + (← b.hexValue?)) * 16 + (← c.hexValue?)) * 16 + (← d.hexValue?)

def simpleEscape : CodePoint → Option Char
  | char '\x22' => some '\x22'
  | char '\\' => some '\\'
  | char '/' => some '/'
  | char 'b' => some '\x08'
  | char 'f' => some '\x0c'
  | char 'n' => some '\n'
  | char 'r' => some '\r'
  | char 't' => some '\t'
  | _ => none

-- What a string in the text goes on with: its end, a code point, an escaped UTF-16 unit, or nothing
-- that may stand there.
inductive StringPart where
  | close
  | point (c : CodePoint)
  | unit (n : Nat)
  | bad

def stringPart : Text → StringPart × Nat
  | char '\x22' :: _ => (.close, 1)
  | char '\\' :: char 'u' :: a :: b :: c :: d :: _ =>
    match hex4 a b c d with
    | some n => (.unit n, 6)
    | none => (.bad, 0)
  | char '\\' :: c :: _ =>
    match simpleEscape c with
    | some e => (.point e, 2)
    | none => (.bad, 0)
  | c :: _ => if c.toNat < 0x20 || c == char '\\' then (.bad, 0) else (.point c, 1)
  | [] => (.bad, 0)

-- The rest of a string after its opening quote. `done` holds its code points so far, last first;
-- `pending` is an escaped high surrogate that waits for its partner and stands alone if none
-- follows; `skip` counts the code points that belong to the part already taken.
def stringFrom (done : Text) (pending : Option Nat) :
    (skip : Nat) → Text → Except ReadFault (Text × Text)
  | _, [] => .error .malformed
  | skip + 1, _ :: rest => stringFrom done pending skip rest
  | 0, c :: rest =>
    let alone := pending.toList.map CodePoint.ofNat ++ done
    match stringPart (c :: rest) with
    | (.close, _) => .ok (alone.reverse, rest)
    | (.point d, taken) => stringFrom (d :: alone) none (taken - 1) rest
    | (.unit n, taken) =>
      if Text.Utf16.isHigh n then stringFrom alone (some n) (taken - 1) rest
      else
        match pending, Text.Utf16.isLow n with
        | some high, true => stringFrom (Text.Utf16.joined high n :: done) none (taken - 1) rest
        | _, _ => stringFrom (.ofNat n :: alone) none (taken - 1) rest
    | (.bad, _) => .error .malformed

def readString (t : Text) : Except ReadFault (Text × Text) := stringFrom [] none 0 t

def fraction (t : Text) : Text × Text :=
  match t with
  | char '.' :: rest =>
    let digits := rest.takeWhile CodePoint.isAsciiDigit
    if digits.isEmpty then ([], t) else (digits, rest.drop digits.length)
  | _ => ([], t)

def exponent? : Text → Option (Int × Text)
  | c :: rest =>
    if c == char 'e' || c == char 'E' then
      let (negative, unsigned) := match rest with
        | char '-' :: r => (true, r)
        | char '+' :: r => (false, r)
        | r => (false, r)
      let digits := unsigned.takeWhile CodePoint.isAsciiDigit
      if digits.isEmpty then none
      else
        let n : Int := Text.decimalValue digits
        some (if negative then -n else n, unsigned.drop digits.length)
    else none
  | [] => none

def readUnsigned (digitLimit : Nat) (negative : Bool) (t : Text) : Except ReadFault (Json × Text) :=
  let run := t.takeWhile CodePoint.isAsciiDigit
  let whole := if run.head? == some (char '0') then run.take 1 else run
  if whole.isEmpty then .error .malformed
  else
    let (frac, afterFraction) := fraction (t.drop whole.length)
    let digits := Text.decimalValue (whole ++ frac)
    match frac, exponent? afterFraction with
    | [], none =>
      if digitLimit < whole.length then .error .malformed
      else
        let n : Int := digits
        .ok (.int (if negative then -n else n), afterFraction)
    | _, some (power, rest) =>
      .ok (.float (.ofDecimal negative digits (power - frac.length)), rest)
    | _, none => .ok (.float (.ofDecimal negative digits (-frac.length)), afterFraction)

def after? : (word t : Text) → Option Text
  | [], t => some t
  | w :: word, c :: t => if w == c then after? word t else none
  | _ :: _, [] => none

def words : List (Text × Json) :=
  [("null", .null), ("true", .bool true), ("false", .bool false), ("NaN", .float .notANumber),
   ("Infinity", .float (.infinite false)), ("-Infinity", .float (.infinite true))]

def readScalar (digitLimit : Nat) (t : Text) : Except ReadFault (Json × Text) :=
  match words.findSome? fun (word, j) => (after? word t).map (j, ·) with
  | some found => .ok found
  | none =>
    match t with
    | char '-' :: rest => readUnsigned digitLimit true rest
    | _ => readUnsigned digitLimit false t

mutual

-- A value at the start of the text, with containers nested at most `depth` deep and integers of at
-- most `digits` digits.
def readValue (digits depth : Nat) : (fuel : Nat) → Text → Except ReadFault (Json × Text)
  | 0, _ => .error .malformed
  | fuel + 1, t =>
    match t with
    | char '\x22' :: rest => do
      let (s, rest) ← readString rest
      return (.str s, rest)
    | char '[' :: rest =>
      match depth with
      | 0 => .error (.tooDeep .array)
      | depth + 1 =>
        match skipSpace rest with
        | char ']' :: rest => .ok (.arr [], rest)
        | rest => readItems digits depth [] fuel rest
    | char '\x7b' :: rest =>
      match depth with
      | 0 => .error (.tooDeep .object)
      | depth + 1 =>
        match skipSpace rest with
        | char '\x7d' :: rest => .ok (.obj [], rest)
        | rest => readMembers digits depth [] fuel rest
    | _ => readScalar digits t

def readItems (digits depth : Nat) (done : List Json) :
    (fuel : Nat) → Text → Except ReadFault (Json × Text)
  | 0, _ => .error .malformed
  | fuel + 1, t => do
    let (item, rest) ← readValue digits depth fuel t
    match skipSpace rest with
    | char ',' :: rest => readItems digits depth (item :: done) fuel (skipSpace rest)
    | char ']' :: rest => return (.arr (item :: done).reverse, rest)
    | _ => .error .malformed

def readMembers (digits depth : Nat) (done : List (Text × Json)) :
    (fuel : Nat) → Text → Except ReadFault (Json × Text)
  | 0, _ => .error .malformed
  | fuel + 1, t =>
    match t with
    | char '\x22' :: rest => do
      let (key, rest) ← readString rest
      match skipSpace rest with
      | char ':' :: rest => do
        let (value, rest) ← readValue digits depth fuel (skipSpace rest)
        let members := putMember key value done
        match skipSpace rest with
        | char ',' :: rest => readMembers digits depth members fuel (skipSpace rest)
        | char '\x7d' :: rest => return (.obj members, rest)
        | _ => .error .malformed
      | _ => .error .malformed
    | _ => .error .malformed

end

-- A text that holds one value and nothing else but white space around it. A value, an item and a
-- member are read with at most two calls for each code point they take, which bounds the fuel.
def ofText (depth : Nat) (t : Text) (digits : Nat := Number.digitLimit) :
    Except ReadFault Json := do
  let (j, rest) ← readValue digits depth (2 * t.length + 1) (skipSpace t)
  if (skipSpace rest).isEmpty then return j else .error .malformed

-- Which encoding the bytes of a JSON text are in: a byte order mark tells, and without one the
-- zero bytes among the first four, as the text starts with ASCII characters.
def decodeBytes (bytes : List UInt8) : Option Text :=
  match bytes with
  | 0x00 :: 0x00 :: 0xfe :: 0xff :: rest => Text.Utf32.decode .big rest
  | 0xff :: 0xfe :: 0x00 :: 0x00 :: rest => Text.Utf32.decode .little rest
  | 0xfe :: 0xff :: rest => Text.Utf16.decode .big rest
  | 0xff :: 0xfe :: rest => Text.Utf16.decode .little rest
  | 0xef :: 0xbb :: 0xbf :: rest => (Text.Utf8.decodeLoosely rest).toOption
  | a :: b :: c :: d :: _ =>
    if a == 0 then
      if b == 0 then Text.Utf32.decode .big bytes else Text.Utf16.decode .big bytes
    else if b == 0 then
      if c == 0 && d == 0 then Text.Utf32.decode .little bytes else Text.Utf16.decode .little bytes
    else (Text.Utf8.decodeLoosely bytes).toOption
  | [a, b] =>
    if a == 0 then Text.Utf16.decode .big bytes
    else if b == 0 then Text.Utf16.decode .little bytes
    else (Text.Utf8.decodeLoosely bytes).toOption
  | _ => (Text.Utf8.decodeLoosely bytes).toOption

def ofBytes (depth : Nat) (bytes : List UInt8) : Except ReadFault Json :=
  match decodeBytes bytes with
  | some t => ofText depth t
  | none => .error .malformed

end SlotCompiler.Json
