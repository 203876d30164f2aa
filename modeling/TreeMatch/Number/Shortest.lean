import TreeMatch.Number.Binary64

/-! The shortest decimal that reads back as a given floating point number, and how it is
written. -/

namespace TreeMatch.Number.Binary64

structure Decimal where
  digits : Nat
  power : Int
  deriving DecidableEq, Repr

/-- Everything is counted in quarters of the last binary place, so that the two ends of the
interval of numbers that round to `mantissa` are integers. -/
structure Rounding where
  low : Nat
  value : Nat
  high : Nat
  /-- The two ends themselves round to the number. -/
  closed : Bool
  exponent : Int
  deriving Repr

/-- The numbers that round to a positive finite number. Below a power of two the neighbour is
only half as far. -/
def rounding (mantissa : Nat) (exponent : Int) : Rounding where
  low := 4 * mantissa - (if mantissa = twoTo 52 ∧ minExponent < exponent then 1 else 2)
  value := 4 * mantissa
  high := 4 * mantissa + 2
  closed := mantissa % 2 == 0
  exponent := exponent - 2

def Rounding.inUnits (r : Rounding) (quarters : Nat) (power : Int) : Nat × Nat :=
  let (top, bottom) :=
    if 0 ≤ r.exponent then (quarters * twoTo r.exponent.toNat, 1)
    else (quarters, twoTo (-r.exponent).toNat)
  if 0 ≤ power then (top, bottom * tenTo power.toNat)
  else (top * tenTo (-power).toNat, bottom)

def Rounding.contains (r : Rounding) (d : Decimal) : Bool :=
  let (low, lowUnit) := r.inUnits r.low d.power
  let (high, highUnit) := r.inUnits r.high d.power
  if r.closed then low ≤ d.digits * lowUnit && d.digits * highUnit ≤ high
  else low < d.digits * lowUnit && d.digits * highUnit < high

/-- The nearer of the two neighbours of the value on a decimal grid that lies in the interval. -/
def Rounding.nearest? (r : Rounding) (power : Int) : Option Decimal :=
  let (top, bottom) := r.inUnits r.value power
  let below : Decimal := ⟨top / bottom, power⟩
  let above : Decimal := ⟨top / bottom + 1, power⟩
  let (first, second) :=
    if 2 * (top % bottom) < bottom then (below, above)
    else if bottom < 2 * (top % bottom) then (above, below)
    else if below.digits % 2 = 0 then (below, above) else (above, below)
  if first.digits ≠ 0 && r.contains first then some first
  else if second.digits ≠ 0 && r.contains second then some second
  else none

/-- The decimal places before the point of a positive value, as an estimate that is never too
small. -/
def Rounding.places (r : Rounding) : Int :=
  let bits : Int := r.value.log2 + r.exponent + 1
  if 0 ≤ bits then bits * 30103 / 100000 + 1 else -((-bits) * 30102 / 100000) + 1

/-- Tries the grids from coarse to fine. The decimal is never zero, as the number is not. -/
def Rounding.search (r : Rounding) : Nat → Int → Decimal
  | 0, power => ⟨max 1 ((r.inUnits r.value power).1 / (r.inUnits r.value power).2), power⟩
  | fuel + 1, power =>
    match r.nearest? power with
    | some d => d
    | none => r.search fuel (power - 1)

/-- The decimal with the fewest digits that rounds to a positive finite number, and among those
the nearest. Eighteen digits below the leading place always suffice. -/
def shortest (mantissa : Nat) (exponent : Int) : Decimal :=
  let r := rounding mantissa exponent
  r.search 20 r.places

def stripZeros (digits : List Char) : List Char :=
  (digits.reverse.dropWhile (· == '0')).reverse

/-- Writes `0.digits * 10 ^ point`: positional while the leading digit stands between the fourth
place after the point and the sixteenth before it, with an exponent otherwise. -/
def layout (digits : List Char) (point : Int) : List Char :=
  let count : Int := digits.length
  if -4 < point ∧ point ≤ 16 then
    if point ≤ 0 then '0' :: '.' :: List.replicate (-point).toNat '0' ++ digits
    else if count ≤ point then digits ++ List.replicate (point - count).toNat '0' ++ ['.', '0']
    else digits.take point.toNat ++ '.' :: digits.drop point.toNat
  else
    let power := point - 1
    let magnitude := Nat.toDigits 10 power.natAbs
    let padded := if magnitude.length < 2 then '0' :: magnitude else magnitude
    let fraction := if digits.length ≤ 1 then [] else '.' :: digits.drop 1
    digits.take 1 ++ fraction ++ 'e' :: (if power < 0 then '-' else '+') :: padded

/-- The shortest text that reads back as the number. -/
def text : Binary64 → String
  | finite negative mantissa exponent =>
    let body :=
      if mantissa = 0 then ['0', '.', '0']
      else
        let d := shortest mantissa exponent
        let digits := Nat.toDigits 10 d.digits
        layout (stripZeros digits) (digits.length + d.power)
    String.ofList (if negative then '-' :: body else body)
  | infinite negative => if negative then "-inf" else "inf"
  | nan _ => "nan"

end TreeMatch.Number.Binary64
