/-!
# Positions

A line and a column, both counted from one in text. Zero stands for a position that is not known.
-/

namespace Lanewise

structure Pos where
  line : Int
  column : Int
  deriving DecidableEq, Repr, Inhabited

namespace Pos

/-- The position of something that is not there. -/
def none : Pos := ⟨0, 0⟩

def text (p : Pos) : String := toString p.line ++ ":" ++ toString p.column

end Pos

end Lanewise
