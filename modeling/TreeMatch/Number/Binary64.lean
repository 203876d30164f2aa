/-! Floating point numbers with 53 binary digits, exactly: a finite number is its sign, a
mantissa and a power of two. -/

namespace TreeMatch.Number

/-- A number that is not finite and not infinite carries a label that tells one such datum from
another; it takes no part in comparisons. -/
inductive Binary64
  | finite (negative : Bool) (mantissa : Nat) (exponent : Int)
  | infinite (negative : Bool)
  | nan (label : Nat)
  deriving DecidableEq, Repr

namespace Binary64

def minExponent : Int := -1074

def maxExponent : Int := 971

def zero (negative : Bool) : Binary64 :=
  .finite negative 0 minExponent

def negate : Binary64 → Binary64
  | finite negative mantissa exponent => finite (!negative) mantissa exponent
  | infinite negative => infinite (!negative)
  | nan label => nan label

def twoTo (n : Nat) : Nat :=
  Nat.pow 2 n

def tenTo (n : Nat) : Nat :=
  Nat.pow 10 n

def scaled (numerator denominator : Nat) (exponent : Int) : Nat × Nat :=
  if 0 ≤ exponent then (numerator, denominator * twoTo exponent.toNat)
  else (numerator * twoTo (-exponent).toNat, denominator)

/-- The exponent at which a positive fraction has a mantissa of 53 digits, or the least one. -/
def exponentOf (numerator denominator : Nat) : Int :=
  let guess : Int := (numerator.log2 : Int) - denominator.log2 - 53
  let (top, bottom) := scaled numerator denominator guess
  max minExponent (if twoTo 53 ≤ top / bottom then guess + 1 else guess)

/-- A quotient rounded to the nearest integer, a half to the even neighbour. -/
def roundQuotient (numerator denominator : Nat) : Nat :=
  let quotient := numerator / denominator
  let twice := 2 * (numerator % denominator)
  if twice < denominator then quotient
  else if denominator < twice then quotient + 1
  else quotient + quotient % 2

def ofFraction (negative : Bool) (numerator denominator : Nat) : Binary64 :=
  if numerator = 0 then zero negative
  else
    let exponent := exponentOf numerator denominator
    let (top, bottom) := scaled numerator denominator exponent
    let mantissa := roundQuotient top bottom
    let (mantissa, exponent) :=
      if mantissa = twoTo 53 then (twoTo 52, exponent + 1) else (mantissa, exponent)
    if maxExponent < exponent then infinite negative else finite negative mantissa exponent

/-- The number nearest to `digits * 10 ^ power`. Powers far outside the range are settled by
the size alone. -/
def ofDecimal (negative : Bool) (digits : Nat) (power : Int) : Binary64 :=
  if digits = 0 then zero negative
  else
    let size : Int := (Nat.toDigits 10 digits).length + power
    if 400 < size then infinite negative
    else if size < -400 then zero negative
    else if 0 ≤ power then ofFraction negative (digits * tenTo power.toNat) 1
    else ofFraction negative digits (tenTo (-power).toNat)

/-- Equality of the numbers denoted: the two zeros are equal, and an undefined number equals
nothing. -/
def equal : Binary64 → Binary64 → Bool
  | finite n m e, finite n' m' e' => (m == 0 && m' == 0) || (n == n' && m == m' && e == e')
  | infinite n, infinite n' => n == n'
  | _, _ => false

def equalsInt : Binary64 → Int → Bool
  | finite negative mantissa exponent, value =>
    let signed : Int := if negative then -mantissa else mantissa
    if 0 ≤ exponent then signed * twoTo exponent.toNat == value
    else signed == value * twoTo (-exponent).toNat
  | _, _ => false

def isZero : Binary64 → Bool
  | finite _ mantissa _ => mantissa == 0
  | _ => false

def isFinite : Binary64 → Bool
  | finite .. => true
  | _ => false

end Binary64

end TreeMatch.Number
