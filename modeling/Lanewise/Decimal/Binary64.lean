/-!
# Double-precision numbers

A double is kept as its 64 bits, so that equality of values is equality of bits and every rule
about rounding is a rule about natural numbers. `round?` is the one place where a rational number
becomes a double: to the nearest, and on a tie to the even mantissa.
-/

namespace Lanewise.Decimal

structure Binary64 where
  bits : UInt64
  deriving DecidableEq, Repr, Inhabited

/-- What the bits stand for. A finite value is `mantissa * 2 ^ exponent`, with the sign apart so
that the two zeros stay different. -/
inductive Binary64.View
  | nan
  | infinite (negative : Bool)
  | finite (negative : Bool) (mantissa : Nat) (exponent : Int)
  deriving DecidableEq, Repr

namespace Binary64

def leastExponent : Int := -1074

def fullMantissa : Nat := Nat.pow 2 52

def view (x : Binary64) : View :=
  let bits := x.bits.toNat
  let negative := bits / Nat.pow 2 63 == 1
  let biased : Nat := bits / Nat.pow 2 52 % Nat.pow 2 11
  let fraction := bits % Nat.pow 2 52
  if biased == 2047 then
    if fraction == 0 then .infinite negative else .nan
  else if biased == 0 then .finite negative fraction leastExponent
  else .finite negative (fullMantissa + fraction) ((biased : Int) - 1075)

def assemble (negative : Bool) (biased fraction : Nat) : Binary64 :=
  ⟨UInt64.ofNat ((if negative then Nat.pow 2 63 else 0) + biased * Nat.pow 2 52 + fraction)⟩

def nan : Binary64 := assemble false 2047 (Nat.pow 2 51 + 1)

def infinity (negative : Bool) : Binary64 := assemble negative 2047 0

def zero (negative : Bool) : Binary64 := assemble negative 0 0

/-- The natural number nearest to `num / den`, the even one on a tie. -/
def roundDiv (num den : Nat) : Nat :=
  let quotient := num / den
  let rest := num % den
  if den < 2 * rest || (2 * rest == den && quotient % 2 == 1) then quotient + 1 else quotient

def scaled (num den : Nat) (exponent : Int) : Nat × Nat :=
  if 0 ≤ exponent then (num, den * Nat.pow 2 exponent.toNat)
  else (num * Nat.pow 2 (-exponent).toNat, den)

/-- The exponent at which the mantissa of `num / den` has fifty-three digits, or the least one. -/
def exponentFor (num den : Nat) : Int :=
  let size : Int := (num.log2 : Int) - (den.log2 : Int)
  let (n, d) := scaled num den size
  max leastExponent (if n < d then size - 53 else size - 52)

/-- The double nearest to `num / den`, or nothing if that lies beyond the largest finite one. -/
def round? (negative : Bool) (num den : Nat) : Option Binary64 :=
  if num == 0 then some (zero negative)
  else
    let exponent := exponentFor num den
    let (n, d) := scaled num den exponent
    let mantissa := roundDiv n d
    -- Rounding up may carry into a fifty-fourth digit.
    let (mantissa, exponent) :=
      if mantissa == 2 * fullMantissa then (fullMantissa, exponent + 1) else (mantissa, exponent)
    if mantissa < fullMantissa then some (assemble negative 0 mantissa)
    else
      let biased := exponent + 1075
      if 2047 ≤ biased then none
      else some (assemble negative biased.toNat (mantissa - fullMantissa))

def ofInt (n : Int) : Binary64 := (round? (n < 0) n.natAbs 1).getD (infinity (n < 0))

def intBound : Int := Nat.pow 2 63

def leastInt : Int := -intBound

/-- Keeps an integer that 64 bits with sign can hold. What is too small, and the first integer that
is too large, become the least one; there is nothing for larger ones. -/
def wrapInt? (n : Int) : Option Int :=
  if n < leastInt then some leastInt
  else if n < intBound then some n
  else if n == intBound then some leastInt
  else none

def truncate? (x : Binary64) : Option Int :=
  match x.view with
  | .nan => none
  | .infinite negative => if negative then some leastInt else none
  | .finite negative mantissa exponent =>
    let size := if 0 ≤ exponent then mantissa * Nat.pow 2 exponent.toNat
      else mantissa / Nat.pow 2 (-exponent).toNat
    wrapInt? (if negative then -(size : Int) else size)

end Binary64

end Lanewise.Decimal
