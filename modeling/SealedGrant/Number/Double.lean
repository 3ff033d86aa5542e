/-! # Binary floating-point numbers of double precision

A finite double is a sign, a mantissa below 2^53 and a power of two; the mantissa fills its 53 bits
unless the power is the least one, so each number other than zero has one form. All arithmetic is
exact on integers and rounds once, to the nearest double with ties to the even mantissa.
-/

namespace SealedGrant

/-- The least mantissa that fills its bits: 2^52. -/
def Double.leastFull : Nat := 0x10000000000000

/-- The form that a finite double has. -/
def Double.Canonical (mantissa : Nat) (exponent : Int) : Prop :=
  mantissa < 2 * leastFull ∧ -1074 ≤ exponent ∧ exponent ≤ 971 ∧
    (leastFull ≤ mantissa ∨ exponent = -1074)

instance (mantissa : Nat) (exponent : Int) : Decidable (Double.Canonical mantissa exponent) :=
  inferInstanceAs (Decidable (_ ∧ _))

/-- A double: a finite number `± mantissa · 2 ^ exponent`, an infinity, or no number. -/
inductive Double where
  | finite (negative : Bool) (mantissa : Nat) (exponent : Int)
      (canonical : Double.Canonical mantissa exponent)
  | infinite (negative : Bool)
  | nan
  deriving DecidableEq

namespace Double

def zero (negative : Bool) : Double :=
  .finite negative 0 (-1074) (by decide)

/-- Whether a double is a finite number. -/
def isFinite : Double → Bool
  | .finite .. => true
  | .infinite _ | .nan => false

/-- The double of a canonical form; a form beyond the range stands for an infinity. -/
def ofForm (negative : Bool) (mantissa : Nat) (exponent : Int) : Double :=
  if canonical : Canonical mantissa exponent then .finite negative mantissa exponent canonical
  else .infinite negative

/-- The integer nearest to a quotient, ties to the even one. -/
def roundQuotient (numerator denominator : Nat) : Nat :=
  let quotient := numerator / denominator
  let rest := 2 * (numerator % denominator)
  if rest < denominator then quotient
  else if denominator < rest then quotient + 1
  else quotient + quotient % 2

/-- The number of binary digits before the point of a positive quotient: the least `k` with
`numerator < denominator · 2 ^ k`, negative when the quotient is below one half. -/
def binaryPlaces (numerator denominator : Nat) : Int :=
  let estimate : Int := (numerator.log2 : Int) - denominator.log2
  if numerator <<< (-estimate).toNat < denominator <<< estimate.toNat then estimate
  else estimate + 1

/-- The double nearest to `± numerator / denominator`. -/
def ofQuotient (negative : Bool) (numerator denominator : Nat) : Double :=
  if numerator = 0 then zero negative
  else
    let exponent := max (binaryPlaces numerator denominator - 53) (-1074)
    let mantissa :=
      roundQuotient (numerator <<< (-exponent).toNat) (denominator <<< exponent.toNat)
    if mantissa = 2 * leastFull then ofForm negative leastFull (exponent + 1)
    else ofForm negative mantissa exponent

def ofInt (n : Int) : Double :=
  ofQuotient (n < 0) n.natAbs 1

/-- The double nearest to `± coefficient · 10 ^ exponent`. Exponents far beyond the range are
decided by the number of digits alone. -/
def ofDecimal (negative : Bool) (coefficient : Nat) (exponent : Int) : Double :=
  let places : Int := (Nat.toDigits 10 coefficient).length + exponent
  if coefficient = 0 then zero negative
  else if 400 < places then .infinite negative
  else if places < -400 then zero negative
  else ofQuotient negative (coefficient * Nat.pow 10 exponent.toNat) (Nat.pow 10 (-exponent).toNat)

def signed (negative : Bool) (magnitude : Nat) : Int :=
  if negative then -(magnitude : Int) else magnitude

/-- The integer part of a finite double: the digits after the point are dropped. -/
def truncate : Double → Int
  | .finite negative mantissa exponent _ =>
      signed negative (mantissa <<< exponent.toNat >>> (-exponent).toNat)
  | .infinite _ | .nan => 0

/-- The double nearest to a sum. A sum with an infinity is that infinity, and opposite infinities
have no sum. -/
def add : Double → Double → Double
  | .finite n₁ m₁ e₁ _, .finite n₂ m₂ e₂ _ =>
      let least := min e₁ e₂
      let total :=
        signed n₁ (m₁ <<< (e₁ - least).toNat) + signed n₂ (m₂ <<< (e₂ - least).toNat)
      if total = 0 then zero (n₁ && n₂)
      else ofQuotient (total < 0) (total.natAbs <<< least.toNat) (1 <<< (-least).toNat)
  | .infinite n₁, .infinite n₂ => if n₁ = n₂ then .infinite n₁ else .nan
  | .infinite n, .finite .. => .infinite n
  | .finite .., .infinite n => .infinite n
  | .nan, _ => .nan
  | _, .nan => .nan

def negate : Double → Double
  | .finite negative mantissa exponent canonical => .finite (!negative) mantissa exponent canonical
  | .infinite negative => .infinite (!negative)
  | .nan => .nan

end Double
end SealedGrant
