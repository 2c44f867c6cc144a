import SlotCompiler.Number.Binary64

namespace SlotCompiler.Number

-- The value of `digits` is `0.d₁d₂… * 10 ^ point`.
structure Digits where
  digits : List Char
  point : Int
deriving DecidableEq, Repr

-- A positive interval of reals as three fractions over one denominator: its ends, and the number
-- that it belongs to. The ends themselves read back as the number iff `closed`.
structure Interval where
  low : Nat
  mid : Nat
  high : Nat
  den : Nat
  closed : Bool

namespace Interval

def contains (i : Interval) (num den : Nat) : Bool :=
  let x := num * i.den
  let low := i.low * den
  let high := i.high * den
  if i.closed then low ≤ x && x ≤ high else low < x && x < high

-- The reals that round to `significand * 2 ^ exponent`. Below a power of two the numbers lie twice
-- as close.
def around (significand : Nat) (exponent : Int) : Interval :=
  let tight := significand == Binary64.leading && Binary64.minExponent < exponent
  let below := if tight then 1 else 2
  let (unit, den) := scaled 1 1 2 (exponent - 2)
  { low := (4 * significand - below) * unit
    mid := 4 * significand * unit
    high := (4 * significand + 2) * unit
    den := den
    closed := significand % 2 == 0 }

def floorLog10From (i : Interval) (k : Int) : (fuel : Nat) → Int
  | 0 => k
  | fuel + 1 =>
    let (num, den) := scaled 1 1 10 (k + 1)
    if num * i.den ≤ i.mid * den then floorLog10From i (k + 1) fuel else k

-- The greatest `k` with `10 ^ k ≤ mid`. The estimate from the binary logarithm is at most two too
-- low.
def floorLog10 (i : Interval) : Int :=
  floorLog10From i ((floorLog2 i.mid i.den) * 30103 / 100000 - 1) 4

-- The multiple of `10 ^ power` in the interval that is nearest to the number, if there is one. The
-- number's two neighbours on the grid decide; of two equally near ones the even multiple counts.
def multiple? (i : Interval) (power : Int) : Option Nat :=
  let (num, den) := scaled i.mid i.den 10 (-power)
  let down := num / den
  let nearest := roundHalfEven num den
  let other := if nearest == down then down + 1 else down
  let fits (q : Nat) : Bool :=
    let (n, d) := scaled q 1 10 power
    i.contains n d
  if fits nearest then some nearest else if fits other then some other else none

def shortestFrom (i : Interval) (top : Int) (count : Nat) : (fuel : Nat) → Nat × Int
  | 0 => (0, 0)
  | fuel + 1 =>
    let power := top - (count : Int) + 1
    match i.multiple? power with
    | some q => (q, power)
    | none => shortestFrom i top (count + 1) fuel

end Interval

-- Seventeen digits always suffice.
def shortest (significand : Nat) (exponent : Int) : Digits :=
  let i := Interval.around significand exponent
  let (q, power) := i.shortestFrom i.floorLog10 1 17
  let digits := Nat.toDigits 10 q
  let stripped := (digits.reverse.dropWhile (· == '0')).reverse
  { digits := stripped, point := (digits.length : Int) + power }

def zeros (n : Nat) : List Char := List.replicate n '0'

def plain (d : Digits) : List Char :=
  let point := d.point.toNat
  if d.point ≤ 0 then '0' :: '.' :: zeros (-d.point).toNat ++ d.digits
  else if d.digits.length ≤ point then d.digits ++ zeros (point - d.digits.length) ++ ['.', '0']
  else d.digits.take point ++ '.' :: d.digits.drop point

def scientific (d : Digits) : List Char :=
  let exponent := d.point - 1
  let power := Nat.toDigits 10 exponent.natAbs
  let fraction := if d.digits.length ≤ 1 then [] else '.' :: d.digits.drop 1
  d.digits.take 1 ++ fraction ++ 'e' :: (if exponent < 0 then '-' else '+') ::
    (zeros (2 - power.length) ++ power)

def Binary64.text : Binary64 → String
  | .notANumber => "nan"
  | .infinite negative => if negative then "-inf" else "inf"
  | .finite negative significand exponent =>
    let sign := if negative then "-" else ""
    if significand == 0 then sign ++ "0.0"
    else
      let d := shortest significand exponent
      sign ++ String.ofList (if -4 < d.point && d.point ≤ 16 then plain d else scientific d)

end SlotCompiler.Number
