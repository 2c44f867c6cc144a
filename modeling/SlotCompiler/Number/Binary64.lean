namespace SlotCompiler.Number

-- A finite number is `± significand * 2 ^ exponent`.
inductive Binary64 where
  | finite (negative : Bool) (significand : Nat) (exponent : Int)
  | infinite (negative : Bool)
  | notANumber
deriving DecidableEq, Repr

-- `num / den` rounded to the nearest integer, a half to the even neighbour.
def roundHalfEven (num den : Nat) : Nat :=
  let quotient := num / den
  let twice := 2 * (num % den)
  if twice < den then quotient
  else if den < twice then quotient + 1
  else if quotient % 2 == 0 then quotient else quotient + 1

def scaled (num den base : Nat) (power : Int) : Nat × Nat :=
  if 0 ≤ power then (num * Nat.pow base power.toNat, den)
  else (num, den * Nat.pow base (-power).toNat)

-- The greatest `k` with `2 ^ k ≤ num / den`, for a positive fraction.
def floorLog2 (num den : Nat) : Int :=
  let k : Int := (Nat.log2 num : Int) - (Nat.log2 den : Int)
  let (n, d) := scaled num den 2 (-k)
  if n < d then k - 1 else k

namespace Binary64

def minExponent : Int := -1074

def maxExponent : Int := 971

def precision : Nat := 53

def leading : Nat := Nat.pow 2 (precision - 1)

def ofFraction (negative : Bool) (num den : Nat) : Binary64 :=
  let exponent := max minExponent (floorLog2 num den - (precision - 1 : Nat))
  let (n, d) := scaled num den 2 (-exponent)
  let significand := roundHalfEven n d
  let (significand, exponent) :=
    if significand == 2 * leading then (leading, exponent + 1)
    else (significand, exponent)
  if maxExponent < exponent then infinite negative else finite negative significand exponent

-- The number nearest to `± digits * 10 ^ power`. Far outside the format's range the answer is known
-- before the power of ten is formed.
def ofDecimal (negative : Bool) (digits : Nat) (power : Int) : Binary64 :=
  let magnitude := ((Nat.toDigits 10 digits).length : Int) + power
  if digits == 0 || magnitude < -330 then finite negative 0 minExponent
  else if 310 < magnitude then infinite negative
  else
    let (num, den) := scaled digits 1 10 power
    ofFraction negative num den

def isZero : Binary64 → Bool
  | finite _ significand _ => significand == 0
  | _ => false

-- Whether the natural number `n` is greater; nothing is greater than a value that is no number.
def belowNat (x : Binary64) (n : Nat) : Bool :=
  match x with
  | finite negative significand exponent =>
    if negative && significand != 0 then true
    else
      let (num, den) := scaled significand 1 2 exponent
      num < n * den
  | infinite negative => negative
  | notANumber => false

end Binary64

end SlotCompiler.Number
