import Lanewise.Decimal.Shortest

/-!
# How a number is written

The shortest digits of a double, laid out positionally or with an exponent.
-/

namespace Lanewise.Decimal

structure Layout where
  /-- The least exponent that is written positionally. -/
  least : Int
  /-- The first exponent that is too large to be written positionally. -/
  limit : Int
  exponentWidth : Nat
  deriving Repr

/-- Literals are positional from `0.0001` up to but not including a million. -/
def Layout.literal : Layout := ⟨-4, 6, 2⟩

def Layout.exponentText (layout : Layout) (exponent : Int) : List Char :=
  let digits := Nat.toDigits 10 exponent.natAbs
  'e' :: (if exponent < 0 then '-' else '+') ::
    (List.replicate (layout.exponentWidth - digits.length) '0' ++ digits)

def pointAfter (n : Nat) (digits : List Char) : List Char :=
  let whole := digits.take n ++ List.replicate (n - digits.length) '0'
  match digits.drop n with
  | [] => whole
  | fraction => whole ++ '.' :: fraction

def Layout.write (layout : Layout) (d : Digits) : List Char :=
  if d.exponent < layout.least || layout.limit ≤ d.exponent then
    pointAfter 1 d.digits ++ layout.exponentText d.exponent
  else if d.exponent < 0 then
    '0' :: '.' :: (List.replicate ((-d.exponent).toNat - 1) '0' ++ d.digits)
  else pointAfter (d.exponent.toNat + 1) d.digits

/-- A double as a literal: `8`, `0.5`, `1e+06`, `-0`, `+Inf`, `NaN`. -/
def Binary64.text (x : Binary64) : String :=
  match x.view with
  | .nan => "NaN"
  | .infinite negative => if negative then "-Inf" else "+Inf"
  | .finite negative mantissa exponent =>
    String.ofList ((if negative then ['-'] else []) ++
      Layout.literal.write (shortest mantissa exponent))

end Lanewise.Decimal
