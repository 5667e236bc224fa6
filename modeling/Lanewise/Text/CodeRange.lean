/-!
# Ranges of code points

Properties of characters are tables of ranges. A range has a step, because alphabets that pair each
capital with its small letter have a property on every second code point.
-/

namespace Lanewise.Text

/-- The code points `first`, `first + step`, … up to `last`. -/
structure CodeRange where
  first : Nat
  last : Nat
  step : Nat
  deriving DecidableEq, Repr

def CodeRange.contains (r : CodeRange) (n : Nat) : Bool :=
  r.first ≤ n && n ≤ r.last && (n - r.first) % r.step == 0

def inTable (table : List CodeRange) (n : Nat) : Bool := table.any (·.contains n)

end Lanewise.Text
