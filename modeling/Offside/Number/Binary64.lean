/-
**Binary floating point with 64 bits.**

A finite number is a sign, a whole significand below 2⁵³ and a power of two. `ofDecimal` takes the
number closest to a decimal, and of two equally close ones the one with the even significand.
`shortest` is the decimal with the fewest digits that is read back as the same number, the closest
one of them and of two equally close ones the larger, and `render` writes it without an exponent.

Everything is computed with whole numbers.
-/

import Offside.Token

namespace Offside.Number

/-- A number of 64 bits. -/
inductive Binary64
  /-- The number `significand · 2 ^ exponent` with a sign. -/
  | finite (negative : Bool) (significand : Nat) (exponent : Int)
  | infinite (negative : Bool)
  | notANumber
  deriving DecidableEq

/-- The least exponent. -/
def leastExponent : Int := -1074

/-- The whole number closest to a quotient; of two equally close ones the even one. -/
def divideToNearest (numerator denominator : Nat) : Nat :=
  let quotient := numerator / denominator
  let doubled := 2 * (numerator % denominator)
  if doubled < denominator then quotient
  else if denominator < doubled then quotient + 1
  else quotient + quotient % 2

/-- A power with a whole exponent, as a numerator and a denominator. -/
def powerOf (base : Nat) (exponent : Int) : Nat × Nat :=
  if 0 ≤ exponent then (base.pow exponent.toNat, 1) else (1, base.pow (-exponent).toNat)

/-- The largest `e` with `2 ^ e` at most a positive quotient. -/
def floorLog2 (numerator denominator : Nat) : Int :=
  let guess : Int := (Nat.log2 numerator : Int) - Nat.log2 denominator
  let (scale, unscale) := powerOf 2 guess
  if denominator * scale ≤ numerator * unscale then guess else guess - 1

namespace Binary64

/-- The number closest to a positive quotient. -/
def ofQuotient (negative : Bool) (numerator denominator : Nat) : Binary64 :=
  let exponent := max (floorLog2 numerator denominator - 52) leastExponent
  let (scale, unscale) := powerOf 2 exponent
  let significand := divideToNearest (numerator * unscale) (denominator * scale)
  let (significand, exponent) :=
    if significand = Nat.pow 2 53 then (Nat.pow 2 52, exponent + 1) else (significand, exponent)
  if 971 < exponent then .infinite negative else .finite negative significand exponent

/-- The number closest to `digits · 10 ^ exponent`. Exponents far out of range are cut short. -/
def ofDecimal (negative : Bool) (digits : Nat) (exponent : Int) : Binary64 :=
  if digits = 0 then .finite negative 0 leastExponent
  else
    let magnitude := exponent + (Nat.toDigits 10 digits).length
    if 400 < magnitude then .infinite negative
    else if magnitude < -400 then .finite negative 0 leastExponent
    else
      let (scale, unscale) := powerOf 10 exponent
      ofQuotient negative (digits * scale) unscale

/-- Whether the number is zero. -/
def isZero : Binary64 → Bool
  | finite _ significand _ => significand == 0
  | _ => false

/-! ### The shortest decimal -/

/-- Looks for a multiple of `10 ^ power` among the decimals that are read back as the number, and
for one with a lower power if there is none. The number is `4 · significand` in quarters of the
last place; the decimals read back as the number are those up to `below` quarters less and two
quarters more, the ends included if the significand is even. -/
def shortestFrom (significand : Nat) (exponent : Int) (below : Nat) : (fuel : Nat) → Int → Nat × Int
  | 0, power => (significand, power)
  | fuel + 1, power =>
    let (binaryScale, binaryUnscale) := powerOf 2 (exponent - 2)
    let (decimalScale, decimalUnscale) := powerOf 10 power
    -- a candidate `c` and a number of quarters `q` compare as `c * grid` and `q * unit`
    let grid := decimalScale * binaryUnscale
    let unit := binaryScale * decimalUnscale
    let value := 4 * significand * unit
    let low := (4 * significand - below) * unit
    let high := (4 * significand + 2) * unit
    let reads (candidate : Nat) : Bool :=
      if significand % 2 = 0 then low ≤ candidate * grid && candidate * grid ≤ high
      else low < candidate * grid && candidate * grid < high
    let lower := value / grid
    let upper := lower + 1
    let lowerReads := lower ≠ 0 && reads lower
    if lowerReads && (!reads upper || value - lower * grid < upper * grid - value) then
      (lower, power)
    else if reads upper then (upper, power)
    else shortestFrom significand exponent below fuel (power - 1)

/-- The fewest decimal digits that are read back as a positive number, and their power of ten. -/
def shortest (significand : Nat) (exponent : Int) : Nat × Int :=
  let below := if significand = Nat.pow 2 52 ∧ leastExponent < exponent then 1 else 2
  let magnitude := (Nat.log2 significand : Int) + exponent
  shortestFrom significand exponent below 25 (magnitude * 30103 / 100000 + 2)

/-- Digits with a power of ten, written without an exponent. -/
def positional (digits : List Char) (power : Int) : List Char :=
  if 0 ≤ power then digits ++ List.replicate power.toNat '0'
  else
    let places := (-power).toNat
    if places < digits.length then
      digits.take (digits.length - places) ++ '.' :: digits.drop (digits.length - places)
    else '0' :: '.' :: (List.replicate (places - digits.length) '0' ++ digits)

/-- The number as text. -/
def render : Binary64 → List Char
  | finite negative significand exponent =>
    let digits :=
      if significand = 0 then ['0']
      else
        let (digits, power) := shortest significand exponent
        positional (Text.decimal digits) power
    if negative then '-' :: digits else digits
  | infinite negative => if negative then "-inf".toList else "inf".toList
  | notANumber => "NaN".toList

end Binary64

end Offside.Number
