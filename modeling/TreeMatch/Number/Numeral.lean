import TreeMatch.Number.Binary64
import TreeMatch.Text.Charset

/-! Reading numbers. Digits of every script count. -/

namespace TreeMatch.Number

open TreeMatch.Text

/-- The number that a run of digits denotes, read after `value`. Other characters count as
nothing. -/
def digitsValue (value : Nat) (digits : List Char) : Nat :=
  digits.foldl (fun total c => 10 * total + (digitValue? c).getD 0) value

def splitSign : List Char → Bool × List Char
  | '-' :: rest => (true, rest)
  | '+' :: rest => (false, rest)
  | text => (false, text)

def intOfNumeral (text : List Char) : Int :=
  let (negative, digits) := splitSign text
  let magnitude := digitsValue 0 digits
  if negative then -(magnitude : Int) else magnitude

/-- The floating point number nearest to a decimal numeral: an optional sign, digits, and
optionally a point with further digits. -/
def floatOfNumeral (text : List Char) : Binary64 :=
  let (negative, unsigned) := splitSign text
  let (whole, rest) := unsigned.span (· ≠ '.')
  let fraction := rest.drop 1
  Binary64.ofDecimal negative (digitsValue (digitsValue 0 whole) fraction) (-fraction.length)

/-- Any written form of a floating point number: a decimal numeral, perhaps with an exponent, or
one of the three words. The label marks an undefined number. -/
def floatOfText (label : Nat) (text : String) : Binary64 :=
  let (negative, unsigned) := splitSign ((trim text.toList).map Char.toLower)
  if unsigned = "inf".toList ∨ unsigned = "infinity".toList then .infinite negative
  else if unsigned = "nan".toList then .nan label
  else
    let (mantissa, rest) := unsigned.span (· ≠ 'e')
    let (whole, fraction) := mantissa.span (· ≠ '.')
    let decimals := fraction.filter isDigit
    .ofDecimal negative (digitsValue (digitsValue 0 (whole.filter isDigit)) decimals)
      (intOfNumeral (rest.drop 1) - decimals.length)

end TreeMatch.Number
