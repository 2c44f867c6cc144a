import SlotCompiler.Text

namespace SlotCompiler.Text

inductive ByteOrder where
  | big
  | little
deriving DecidableEq, Repr

def ByteOrder.pair (order : ByteOrder) (a b : UInt8) : Nat :=
  match order with
  | .big => a.toNat * 256 + b.toNat
  | .little => b.toNat * 256 + a.toNat

namespace Utf16

def units (order : ByteOrder) : List UInt8 → Option (List Nat)
  | [] => some []
  | [_] => none
  | a :: b :: rest => (units order rest).map (order.pair a b :: ·)

def isHigh (n : Nat) : Bool := 0xd800 ≤ n && n < 0xdc00

def isLow (n : Nat) : Bool := 0xdc00 ≤ n && n < 0xe000

def joined (high low : Nat) : CodePoint :=
  .char (Char.ofNat (0x10000 + (high - 0xd800) * 0x400 + (low - 0xdc00)))

def halves (n : Nat) : Nat × Nat :=
  (0xd800 + (n - 0x10000) / 0x400, 0xdc00 + (n - 0x10000) % 0x400)

def ofUnits : List Nat → Text
  | [] => []
  | [u] => [.ofNat u]
  | u :: v :: rest =>
    if isHigh u && isLow v then joined u v :: ofUnits rest else .ofNat u :: ofUnits (v :: rest)

def decode (order : ByteOrder) (bytes : List UInt8) : Option Text :=
  (units order bytes).map ofUnits

end Utf16

namespace Utf32

def decode (order : ByteOrder) : List UInt8 → Option Text
  | [] => some []
  | a :: b :: c :: d :: rest =>
    let code := match order with
      | .big => order.pair a b * 0x10000 + order.pair c d
      | .little => order.pair c d * 0x10000 + order.pair a b
    if code < 0x110000 then (decode order rest).map (.ofNat code :: ·) else none
  | _ => none

end Utf32

end SlotCompiler.Text
