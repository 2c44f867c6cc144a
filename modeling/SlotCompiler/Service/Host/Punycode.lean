import SlotCompiler.Text

namespace SlotCompiler.Service.Host.Punycode

open CodePoint (char)

def digit (d : Nat) : CodePoint := .ofNat (if d < 26 then 0x61 + d else 0x30 + d - 26)

def digitValue? (c : CodePoint) : Option Nat :=
  if c.isAsciiLetter then some (c.asciiLower.toNat - 0x61)
  else if c.isAsciiDigit then some (c.toNat - 0x30 + 26)
  else none

-- A digit below the threshold of its place is the last one. `place` is 36 for the first digit and
-- grows by 36.
def threshold (place bias : Nat) : Nat := max 1 (min 26 (place - bias))

def halve (delta divisions : Nat) : Nat :=
  if 455 < delta then halve (delta / 35) (divisions + 36)
  else divisions + 36 * delta / (delta + 38)
termination_by delta
decreasing_by exact Nat.div_lt_self (by omega) (by omega)

def adapt (delta count : Nat) (isFirst : Bool) : Nat :=
  let scaled := if isFirst then delta / 700 else delta / 2
  halve (scaled + scaled / count) 0

def number (bias place n : Nat) : Text :=
  let t := threshold place bias
  if n < t then [digit n]
  else digit (t + (n - t) % (36 - t)) :: number bias (place + 36) ((n - t) / (36 - t))
termination_by n
decreasing_by
  have positive : 1 ≤ threshold place bias := Nat.le_max_left _ _
  have smaller := Nat.div_le_self (n - threshold place bias) (36 - threshold place bias)
  simp only [t] at *
  omega

-- `placed` code points are written, the last of them is `delta` steps behind.
structure Encoder where
  written : Text := []
  delta : Nat := 0
  bias : Nat := 72
  placed : Nat

def pass (basic n : Nat) (e : Encoder) (c : CodePoint) : Encoder :=
  if c.toNat < n then { e with delta := e.delta + 1 }
  else if c.toNat == n then
    { written := e.written ++ number e.bias 36 e.delta
      delta := 0
      bias := adapt e.delta (e.placed + 1) (e.placed == basic)
      placed := e.placed + 1 }
  else e

-- Writes the given code points, which ascend; `least` is the least that is not yet written.
def encodeFrom (t : Text) (basic least : Nat) (e : Encoder) : List Nat → Text
  | [] => e.written
  | n :: rest =>
    let e := t.foldl (pass basic n) { e with delta := e.delta + (n - least) * (e.placed + 1) }
    encodeFrom t basic (n + 1) { e with delta := e.delta + 1 } rest

def encode (t : Text) : Text :=
  let basic := t.filter (·.isAscii)
  let others := ((t.filter (!·.isAscii)).map (·.toNat)).mergeSort.eraseDups
  let marked : Text := if basic.isEmpty then [] else basic ++ "-"
  marked ++ encodeFrom t basic.length 0x80 { placed := basic.length } others

inductive Fault where
  | incomplete
  | noDigit (c : CodePoint)
  | tooGreat (n : Nat)
deriving DecidableEq, Repr

def hexText (n : Nat) : Text := String.ofList (Nat.toDigits 16 n)

def Fault.message : Fault → Text
  | incomplete => "incomplete punicode string"
  | noDigit c => "Invalid extended code point '" ++ ([c] : Text) ++ "'"
  | tooGreat n => "Invalid character U+" ++ hexText n

def readNumber (bias place weight n : Nat) : Text → Except Fault (Nat × Text)
  | [] => .error .incomplete
  | c :: rest =>
    match digitValue? c with
    | none => .error (.noDigit c)
    | some d =>
      let t := threshold place bias
      if d < t then .ok (n + d * weight, rest)
      else readNumber bias (place + 36) (weight * (36 - t)) (n + d * weight) rest

-- Places code points into `t`; the next one is at least `least` and stands at `position` or after
-- it. Each number takes a digit or more, so the length of the rest is fuel enough.
def decodeFrom (bias least position : Nat) (t : Text) (isFirst : Bool) :
    (fuel : Nat) → Text → Except Fault Text
  | _, [] => .ok t
  | 0, _ => .ok t
  | fuel + 1, rest => do
    let (delta, rest) ← readNumber bias 36 1 0 rest
    let count := t.length + 1
    let n := least + (position + delta) / count
    let place := (position + delta) % count
    if 0x10ffff < n then throw (.tooGreat n)
    decodeFrom (adapt delta count isFirst) n (place + 1)
      (t.take place ++ .ofNat n :: t.drop place) false fuel rest

def decode (t : Text) : Except Fault Text :=
  let (basic, rest) := Text.splitLast (char '-') t
  decodeFrom 72 0x80 0 (basic.getD []) true rest.length rest

end SlotCompiler.Service.Host.Punycode
