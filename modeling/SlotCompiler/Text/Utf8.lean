import SlotCompiler.Text

namespace SlotCompiler.Text.Utf8

inductive Reason where
  | badStart
  | badContinuation
  | truncated
deriving DecidableEq, Repr

def Reason.text : Reason → Text
  | .badStart => "invalid start byte"
  | .badContinuation => "invalid continuation byte"
  | .truncated => "unexpected end of data"

structure Fault where
  start : Nat
  bytes : List UInt8
  reason : Reason
deriving DecidableEq, Repr

-- A first byte: the number of continuation bytes, the range of the first of them, and the bits that
-- it contributes.
structure Lead where
  more : Nat
  low : Nat := 0x80
  high : Nat := 0xbf
  bits : Nat

def lead? (surrogates : Bool) (b : Nat) : Option Lead :=
  if b < 0x80 then some { more := 0, bits := b }
  else if b < 0xc2 then none
  else if b < 0xe0 then some { more := 1, bits := b - 0xc0 }
  else if b == 0xe0 then some { more := 2, low := 0xa0, bits := 0 }
  else if b == 0xed && !surrogates then some { more := 2, high := 0x9f, bits := 0xd }
  else if b < 0xf0 then some { more := 2, bits := b - 0xe0 }
  else if b == 0xf0 then some { more := 3, low := 0x90, bits := 0 }
  else if b < 0xf4 then some { more := 3, bits := b - 0xf0 }
  else if b == 0xf4 then some { more := 3, high := 0x8f, bits := 4 }
  else none

-- How a sequence goes on after its first byte: the code point it completes, or how many further
-- bytes are well-formed and why it stops there.
def continuation (more low high code taken : Nat) : List UInt8 → Except (Reason × Nat) Nat :=
  match more with
  | 0 => fun _ => .ok code
  | more + 1 => fun
    | [] => .error (.truncated, taken)
    | b :: rest =>
      if low ≤ b.toNat && b.toNat ≤ high then
        continuation more 0x80 0xbf (code * 64 + (b.toNat - 0x80)) (taken + 1) rest
      else .error (.badContinuation, taken)

-- The sequences that bytes fall into, each decoded or refused. `skip` counts the bytes that belong
-- to the sequence already read, `start` is the offset of the next byte, `done` holds the sequences
-- so far, last first.
def sequencesFrom (surrogates : Bool) (done : List (Except Fault CodePoint)) (start : Nat) :
    (skip : Nat) → List UInt8 → List (Except Fault CodePoint)
  | _, [] => done.reverse
  | skip + 1, _ :: rest => sequencesFrom surrogates done (start + 1) skip rest
  | 0, b :: rest =>
    match lead? surrogates b.toNat with
    | none => sequencesFrom surrogates (.error ⟨start, [b], .badStart⟩ :: done) (start + 1) 0 rest
    | some l =>
      match continuation l.more l.low l.high l.bits 0 rest with
      | .ok code =>
        sequencesFrom surrogates (.ok (.ofNat code) :: done) (start + 1) l.more rest
      | .error (reason, taken) =>
        sequencesFrom surrogates (.error ⟨start, b :: rest.take taken, reason⟩ :: done) (start + 1)
          taken rest

def sequences (surrogates : Bool) (bytes : List UInt8) : List (Except Fault CodePoint) :=
  sequencesFrom surrogates [] 0 0 bytes

def decode (bytes : List UInt8) : Except Fault Text := (sequences false bytes).mapM id

-- Encoded surrogates are accepted.
def decodeLoosely (bytes : List UInt8) : Except Fault Text := (sequences true bytes).mapM id

-- An ill-formed sequence counts as the replacement character.
def decodeReplacing (bytes : List UInt8) : Text :=
  (sequences false bytes).map fun
    | .ok c => c
    | .error _ => .char '�'

def encodePoint (c : CodePoint) : List UInt8 :=
  let n := c.toNat
  let trail (n : Nat) : UInt8 := UInt8.ofNat (0x80 + n % 64)
  if n < 0x80 then [UInt8.ofNat n]
  else if n < 0x800 then [UInt8.ofNat (0xc0 + n / 64), trail n]
  else if n < 0x10000 then [UInt8.ofNat (0xe0 + n / 4096), trail (n / 64), trail n]
  else [UInt8.ofNat (0xf0 + n / 262144), trail (n / 4096), trail (n / 64), trail n]

def encode (t : Text) : List UInt8 := t.flatMap encodePoint

end SlotCompiler.Text.Utf8
