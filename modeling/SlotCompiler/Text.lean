namespace SlotCompiler

inductive CodePoint where
  | char (c : Char)
  -- The surrogate this far above U+D800.
  | surrogate (offset : Fin 0x800)
deriving DecidableEq, Repr

namespace CodePoint

instance : Coe Char CodePoint := ⟨char⟩

def toNat : CodePoint → Nat
  | char c => c.toNat
  | surrogate offset => 0xd800 + offset.val

def ofNat (n : Nat) : CodePoint :=
  if h : 0xd800 ≤ n ∧ n < 0xe000 then surrogate ⟨n - 0xd800, by omega⟩ else char (Char.ofNat n)

def isAscii (c : CodePoint) : Bool := c.toNat < 0x80

def isAsciiDigit (c : CodePoint) : Bool := 0x30 ≤ c.toNat && c.toNat ≤ 0x39

def isAsciiUpper (c : CodePoint) : Bool := 0x41 ≤ c.toNat && c.toNat ≤ 0x5a

def isAsciiLower (c : CodePoint) : Bool := 0x61 ≤ c.toNat && c.toNat ≤ 0x7a

def isAsciiLetter (c : CodePoint) : Bool := c.isAsciiUpper || c.isAsciiLower

def asciiLower (c : CodePoint) : CodePoint := if c.isAsciiUpper then .ofNat (c.toNat + 32) else c

def hexValue? (c : CodePoint) : Option Nat :=
  let n := c.toNat
  if c.isAsciiDigit then some (n - 0x30)
  else if 0x61 ≤ n && n ≤ 0x66 then some (n - 0x61 + 10)
  else if 0x41 ≤ n && n ≤ 0x46 then some (n - 0x41 + 10)
  else none

end CodePoint

abbrev Text := List CodePoint

namespace Text

def ofString (s : String) : Text := s.toList.map .char

instance : Coe String Text := ⟨ofString⟩

-- The text as characters. A surrogate is shown as the replacement character.
def asString (t : Text) : String :=
  String.ofList (t.map fun
    | .char c => c
    | .surrogate _ => '�')

def ofInt (n : Int) : Text := toString n

def ofNat (n : Nat) : Text := toString n

def decimalValue (digits : Text) : Nat :=
  digits.foldl (fun n d => n * 10 + (d.toNat - 0x30)) 0

def join (separator : Text) (parts : List Text) : Text := List.intercalate separator parts

def splitFirst (c : CodePoint) (t : Text) : Text × Text :=
  let left := t.takeWhile (· != c)
  (left, t.drop (left.length + 1))

def splitLast (c : CodePoint) (t : Text) : Option Text × Text :=
  let right := (t.reverse.takeWhile (· != c)).reverse
  if right.length < t.length then (some (t.take (t.length - right.length - 1)), right)
  else (none, t)

def occursIn (part : Text) : Text → Bool
  | [] => part.isEmpty
  | c :: rest => part.isPrefixOf (c :: rest) || part.occursIn rest

def le : Text → Text → Bool
  | [], _ => true
  | _ :: _, [] => false
  | a :: s, b :: t => a.toNat < b.toNat || (a == b && le s t)

end Text

end SlotCompiler
