import SealedGrant.Number.Double

/-! # Decimal text of doubles

A double is written with the fewest significant digits that read back as it; of several such digit
strings the one nearest to the number is taken. The search asks for one digit, then two, and so on:
on each decimal grid only the two neighbours of the number can be the answer, because the numbers
that round to the double form an interval around it.
-/

namespace SealedGrant

/-- A decimal number `coefficient · 10 ^ exponent`. -/
structure Decimal where
  coefficient : Nat
  exponent : Int
  deriving DecidableEq, Repr

namespace Decimal

/-- The number of decimal digits before the point of a positive quotient: the least `k` with
`numerator < denominator · 10 ^ k`, negative when zeros follow the point. -/
def places (numerator denominator : Nat) : Int :=
  let estimate : Int :=
    ((Nat.toDigits 10 numerator).length : Int) - (Nat.toDigits 10 denominator).length
  if numerator * Nat.pow 10 (-estimate).toNat < denominator * Nat.pow 10 estimate.toNat then
    estimate
  else estimate + 1

/-- The interval of the numbers that round to a positive double, in units of a quarter of its last
place, with the double itself in the middle. Its ends belong to it when the mantissa is even. -/
structure Interval where
  below : Nat
  value : Nat
  above : Nat
  /-- The unit as a power of two. -/
  unit : Int
  closed : Bool

/-- The interval of a double. The neighbour below a power of two is half as far away. -/
def Interval.of (mantissa : Nat) (exponent : Int) : Interval where
  below :=
    if mantissa = Double.leastFull ∧ exponent ≠ -1074 then 4 * mantissa - 1 else 4 * mantissa - 2
  value := 4 * mantissa
  above := 4 * mantissa + 2
  unit := exponent - 2
  closed := mantissa % 2 = 0

/-- Whether a decimal number lies in the interval. -/
def Interval.contains (interval : Interval) (decimal : Decimal) : Bool :=
  let point := (decimal.coefficient * Nat.pow 10 decimal.exponent.toNat) <<< (-interval.unit).toNat
  let scale := Nat.pow 10 (-decimal.exponent).toNat <<< interval.unit.toNat
  if interval.closed then interval.below * scale ≤ point && point ≤ interval.above * scale
  else interval.below * scale < point && point < interval.above * scale

/-- The one of two neighbouring grid points that is nearer to the middle of the interval; a tie goes
to the even coefficient. -/
def Interval.nearer (interval : Interval) (lower upper : Decimal) : Decimal :=
  let twice :=
    ((lower.coefficient + upper.coefficient) * Nat.pow 10 lower.exponent.toNat) <<<
      (-interval.unit).toNat
  let middle := (2 * interval.value * Nat.pow 10 (-lower.exponent).toNat) <<< interval.unit.toNat
  if middle < twice then lower
  else if twice < middle then upper
  else if lower.coefficient % 2 = 0 then lower else upper

/-- The grid point of the given power of ten that reads back, if there is one. -/
def Interval.onGrid? (interval : Interval) (exponent : Int) : Option Decimal :=
  let floor :=
    (interval.value * Nat.pow 10 (-exponent).toNat) <<< interval.unit.toNat /
      Nat.pow 10 exponent.toNat <<< (-interval.unit).toNat
  let lower : Decimal := ⟨floor, exponent⟩
  let upper : Decimal := ⟨floor + 1, exponent⟩
  match interval.contains lower, interval.contains upper with
  | true, true => some (interval.nearer lower upper)
  | true, false => some lower
  | false, true => some upper
  | false, false => none

/-- The shortest decimal number that reads back as a positive double. Seventeen digits always do. -/
def shortest (mantissa : Nat) (exponent : Int) : Decimal :=
  let interval := Interval.of mantissa exponent
  let leading := places (mantissa <<< exponent.toNat) (1 <<< (-exponent).toNat)
  let found := (List.range 17).findSome? fun (more : Nat) =>
    interval.onGrid? (leading - ((more : Int) + 1))
  found.getD ⟨mantissa, 0⟩

/-- The same number without zeros at the end of its coefficient. -/
def trimZeros (decimal : Decimal) : Decimal :=
  let digits := (Nat.toDigits 10 decimal.coefficient).reverse
  let zeros := (digits.takeWhile (· = '0')).length
  ⟨decimal.coefficient / Nat.pow 10 zeros, decimal.exponent + zeros⟩

/-- How a decimal number is laid out as text. -/
structure Layout where
  /-- The least exponent of the leading digit that is written positionally. -/
  least : Int
  /-- The first exponent of the leading digit that is not written positionally any more. -/
  limit : Int
  /-- The least number of digits of a written exponent. -/
  exponentWidth : Nat

/-- Leading digits from 0.0001 up to 10^16 are written positionally and keep a digit after the
point; other numbers have an exponent with a sign and two digits or more. -/
def Layout.plain : Layout := ⟨-4, 16, 2⟩

/-- Decimal digits of a number, with zeros in front up to a width. -/
def paddedDigits (width n : Nat) : List Char :=
  let digits := Nat.toDigits 10 n
  List.replicate (width - digits.length) '0' ++ digits

/-- Write a decimal number whose coefficient has no zero at its end. -/
def Layout.write (layout : Layout) (decimal : Decimal) : List Char :=
  let digits := Nat.toDigits 10 decimal.coefficient
  let point : Int := digits.length + decimal.exponent
  let leading := point - 1
  if layout.least ≤ leading ∧ leading < layout.limit then
    if point ≤ 0 then '0' :: '.' :: List.replicate (-point).toNat '0' ++ digits
    else if digits.length ≤ point.toNat then
      digits ++ List.replicate (point.toNat - digits.length) '0' ++ ['.', '0']
    else digits.take point.toNat ++ '.' :: digits.drop point.toNat
  else
    let fraction := if digits.length = 1 then digits else digits.take 1 ++ '.' :: digits.drop 1
    fraction ++ 'e' :: (if leading < 0 then '-' else '+') ::
      paddedDigits layout.exponentWidth leading.natAbs

end Decimal

/-- The text of a finite double, and of zero as `0.0` with its sign. -/
def Double.finiteText (negative : Bool) (mantissa : Nat) (exponent : Int) : List Char :=
  let magnitude :=
    if mantissa = 0 then ['0', '.', '0']
    else Decimal.Layout.plain.write (Decimal.shortest mantissa exponent).trimZeros
  if negative then '-' :: magnitude else magnitude

end SealedGrant
