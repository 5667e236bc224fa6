import Lanewise.Decimal.Binary64

/-!
# Shortest decimals

The fewest decimal digits that read back as a given double, and of those the ones nearest to its
value. For one digit, two digits and so on the two neighbours of the value on that decimal grid
are tried; the first grid with a neighbour that rounds to the double wins.
-/

namespace Lanewise.Decimal

/-- The digits `d₁d₂…` and the exponent of `d₁.d₂… × 10 ^ exponent`. The last digit is not zero
unless it is the only one. -/
structure Digits where
  digits : List Char
  exponent : Int
  deriving DecidableEq, Repr

/-- The reals that round to a double, as numerators over one denominator: the value lies between
`low` and `high`, whose ends count if `closed`. -/
structure Interval where
  low : Nat
  value : Nat
  high : Nat
  denominator : Nat
  closed : Bool
  deriving Repr

/-- The half-way points to the two neighbours. Below a power of two the lower neighbour is closer
by half, except where the exponents end. -/
def Interval.around (mantissa : Nat) (exponent : Int) : Interval :=
  let scale := if 0 ≤ exponent then Nat.pow 2 exponent.toNat else 1
  let denominator := 4 * (if 0 ≤ exponent then 1 else Nat.pow 2 (-exponent).toNat)
  let below := if mantissa == Binary64.fullMantissa && Binary64.leastExponent < exponent then 1
    else 2
  { low := (4 * mantissa - below) * scale
    value := 4 * mantissa * scale
    high := (4 * mantissa + 2) * scale
    denominator := denominator
    closed := mantissa % 2 == 0 }

def Interval.holds (i : Interval) (num den : Nat) : Bool :=
  let n := num * i.denominator
  if i.closed then i.low * den ≤ n && n ≤ i.high * den
  else i.low * den < n && n < i.high * den

def powerOfTen (k : Int) : Nat × Nat :=
  if 0 ≤ k then (Nat.pow 10 k.toNat, 1) else (1, Nat.pow 10 (-k).toNat)

def leadingZeros : Nat → Nat → Nat → Nat
  | 0, _, _ => 0
  | fuel + 1, num, den => if den ≤ num then 0 else leadingZeros fuel (num * 10) den + 1

/-- The exponent of the first decimal digit of `num / den`; no double needs more than 400 steps. -/
def decimalExponent (num den : Nat) : Int :=
  if den ≤ num then ((Nat.toDigits 10 (num / den)).length : Int) - 1
  else -(leadingZeros 400 num den : Int)

def dropTrailingZeros (digits : List Char) : List Char :=
  match (digits.reverse.dropWhile (· == '0')).reverse with
  | [] => ['0']
  | kept => kept

def Digits.ofGrid (count size : Nat) (first : Int) : Digits :=
  let digits := Nat.toDigits 10 count
  ⟨dropTrailingZeros digits, first + digits.length - size⟩

/-- The better neighbour of the value on the grid of `size` digits, if one reads back. -/
def Interval.onGrid? (i : Interval) (first : Int) (size : Nat) : Option Digits :=
  let (unitNum, unitDen) := powerOfTen (first - size + 1)
  let below := i.value * unitDen / (i.denominator * unitNum)
  let lowFits := i.holds (below * unitNum) unitDen
  let highFits := i.holds ((below + 1) * unitNum) unitDen
  -- How far the value lies above the lower neighbour decides between two hits.
  let rest := i.value * unitDen - below * (i.denominator * unitNum)
  let upwards := i.denominator * unitNum < 2 * rest ||
    (i.denominator * unitNum == 2 * rest && below % 2 == 1)
  if lowFits && (!highFits || !upwards) then some (.ofGrid below size first)
  else if highFits then some (.ofGrid (below + 1) size first)
  else none

/-- The first grid of at least `size` digits with a hit; seventeen digits always suffice. -/
def Interval.shortestFrom (i : Interval) (first : Int) : Nat → Nat → Digits
  | 0, size => .ofGrid (i.value / i.denominator) size first
  | fuel + 1, size =>
    match i.onGrid? first size with
    | some digits => digits
    | none => i.shortestFrom first fuel (size + 1)

def shortest (mantissa : Nat) (exponent : Int) : Digits :=
  if mantissa == 0 then ⟨['0'], 0⟩
  else
    let i := Interval.around mantissa exponent
    i.shortestFrom (decimalExponent i.value i.denominator) 17 1

end Lanewise.Decimal
