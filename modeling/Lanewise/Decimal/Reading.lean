import Lanewise.Decimal.Binary64

/-!
# Reading decimals

A decimal is an optional sign, digits with at most one point among or around them, and an optional
exponent. It reads as the nearest double, and as nothing if it lies beyond the finite ones.
-/

namespace Lanewise.Decimal

/-- A written decimal: `mantissa * 10 ^ exponent`. -/
structure Written where
  negative : Bool
  mantissa : Nat
  exponent : Int
  deriving DecidableEq, Repr

def digitValue (c : Char) : Nat := c.toNat - '0'.toNat

def digitsValue (digits : List Char) : Nat := digits.foldl (fun n c => 10 * n + digitValue c) 0

/-- An exponent mark with its digits, or nothing at all; the rest of the text must be empty. -/
def exponentPart? : List Char → Option Int
  | [] => some 0
  | mark :: rest =>
    if mark == 'e' || mark == 'E' then
      let (negative, digits) := match rest with
        | '-' :: digits => (true, digits)
        | '+' :: digits => (false, digits)
        | digits => (false, digits)
      if digits.isEmpty || !digits.all Char.isDigit then none
      else
        let n : Int := digitsValue digits
        some (if negative then -n else n)
    else none

def unsigned? (cs : List Char) : Option (Nat × Int) := do
  let whole := cs.takeWhile Char.isDigit
  let (fraction, tail) := match cs.dropWhile Char.isDigit with
    | '.' :: rest => (rest.takeWhile Char.isDigit, rest.dropWhile Char.isDigit)
    | rest => ([], rest)
  if whole.isEmpty && fraction.isEmpty then none
  else
    let exponent ← exponentPart? tail
    some (digitsValue (whole ++ fraction), exponent - fraction.length)

def written? (cs : List Char) : Option Written := do
  let (negative, body) := match cs with
    | '-' :: body => (true, body)
    | '+' :: body => (false, body)
    | body => (false, body)
  let (mantissa, exponent) ← unsigned? body
  some ⟨negative, mantissa, exponent⟩

/-- The nearest double. Beyond these exponents nothing is computed: the value is past the largest
double, or below half the smallest. -/
def Written.value? (w : Written) : Option Binary64 :=
  let size := (Nat.toDigits 10 w.mantissa).length
  if w.mantissa == 0 then some (.zero w.negative)
  else if 400 < w.exponent + size then none
  else if w.exponent + size < -400 then some (.zero w.negative)
  else if 0 ≤ w.exponent then
    Binary64.round? w.negative (w.mantissa * Nat.pow 10 w.exponent.toNat) 1
  else Binary64.round? w.negative w.mantissa (Nat.pow 10 (-w.exponent).toNat)

/-- Underscores may stand only between two digits; `afterDigit` tells whether the text goes on
after one. -/
def underscoresOk : Bool → List Char → Bool
  | _, [] => true
  | afterDigit, '_' :: next :: rest =>
    afterDigit && next.isDigit && underscoresOk true rest
  | _, ['_'] => false
  | _, c :: rest => underscoresOk c.isDigit rest

def read? (cs : List Char) : Option Binary64 :=
  if underscoresOk false cs then
    (written? (cs.filter (· != '_'))).bind Written.value?
  else none

def Binary64.ofText? (s : String) : Option Binary64 :=
  match s with
  | "NaN" => some .nan
  | "Inf" | "+Inf" => some (.infinity false)
  | "-Inf" => some (.infinity true)
  | _ => read? s.toList

end Lanewise.Decimal
