/-!
# Operators

The four classes of operator with their spellings. An operator can also be a number that no
spelling names; it prints as `?` and belongs to no group.
-/

namespace Lanewise

inductive BinaryOp
  | add | sub | mul | div | mod
  | eq | notEq
  | lt | ltEq | gt | gtEq
  | and | or
  | assign | addAssign | subAssign | mulAssign | divAssign
  | other (code : Int)
  deriving DecidableEq, Repr, Inhabited

namespace BinaryOp

def all : List BinaryOp := [
  add, sub, mul, div, mod, eq, notEq, lt, ltEq, gt, gtEq, and, or,
  assign, addAssign, subAssign, mulAssign, divAssign]

def text : BinaryOp → String
  | .add => "+"
  | .sub => "-"
  | .mul => "*"
  | .div => "/"
  | .mod => "%"
  | .eq => "=="
  | .notEq => "!="
  | .lt => "<"
  | .ltEq => "<="
  | .gt => ">"
  | .gtEq => ">="
  | .and => "&&"
  | .or => "||"
  | .assign => "="
  | .addAssign => "+="
  | .subAssign => "-="
  | .mulAssign => "*="
  | .divAssign => "/="
  | .other _ => "?"

def ofCode (code : Int) : BinaryOp :=
  if 0 ≤ code then all.getD code.toNat (.other code) else .other code

def ofText? (s : String) : Option BinaryOp := all.find? (·.text == s)

def isArithmetic : BinaryOp → Bool
  | .add | .sub | .mul | .div | .mod => true
  | _ => false

def isOrdering : BinaryOp → Bool
  | .lt | .ltEq | .gt | .gtEq => true
  | _ => false

def isEquality : BinaryOp → Bool
  | .eq | .notEq => true
  | _ => false

def isLogical : BinaryOp → Bool
  | .and | .or => true
  | _ => false

def isAssignment : BinaryOp → Bool
  | .assign | .addAssign | .subAssign | .mulAssign | .divAssign => true
  | _ => false

end BinaryOp

inductive UnaryOp
  | neg | not | ref
  | other (code : Int)
  deriving DecidableEq, Repr, Inhabited

namespace UnaryOp

def all : List UnaryOp := [neg, not, ref]

def text : UnaryOp → String
  | .neg => "-"
  | .not => "!"
  | .ref => "&"
  | .other _ => "?"

def ofCode (code : Int) : UnaryOp :=
  if 0 ≤ code then all.getD code.toNat (.other code) else .other code

def ofText? (s : String) : Option UnaryOp := all.find? (·.text == s)

end UnaryOp

/-- Operators applied lane by lane, spelled with a leading dot. -/
inductive LaneOp
  | add | sub | mul | div
  | and | or | xor
  | eq | notEq | lt | ltEq | gt | gtEq
  | other (code : Int)
  deriving DecidableEq, Repr, Inhabited

namespace LaneOp

def all : List LaneOp := [add, sub, mul, div, and, or, xor, eq, notEq, lt, ltEq, gt, gtEq]

def text : LaneOp → String
  | .add => ".+"
  | .sub => ".-"
  | .mul => ".*"
  | .div => "./"
  | .and => ".&"
  | .or => ".|"
  | .xor => ".^"
  | .eq => ".=="
  | .notEq => ".!="
  | .lt => ".<"
  | .ltEq => ".<="
  | .gt => ".>"
  | .gtEq => ".>="
  | .other _ => "?"

def ofCode (code : Int) : LaneOp :=
  if 0 ≤ code then all.getD code.toNat (.other code) else .other code

/-- The leading dot may be left out. -/
def ofText? (s : String) : Option LaneOp :=
  let dotted := match s.toList with
    | [] => s
    | c :: _ => if c == '.' then s else "." ++ s
  all.find? (·.text == dotted)

def isArithmetic : LaneOp → Bool
  | .add | .sub | .mul => true
  | _ => false

def isDivision : LaneOp → Bool
  | .div => true
  | _ => false

def isBitwise : LaneOp → Bool
  | .and | .or | .xor => true
  | _ => false

def isComparison : LaneOp → Bool
  | .eq | .notEq | .lt | .ltEq | .gt | .gtEq => true
  | _ => false

end LaneOp

inductive ReduceOp
  | sum | product | min | max | and | or | xor
  | other (code : Int)
  deriving DecidableEq, Repr, Inhabited

namespace ReduceOp

def all : List ReduceOp := [sum, product, min, max, and, or, xor]

def text : ReduceOp → String
  | .sum => "sum"
  | .product => "product"
  | .min => "min"
  | .max => "max"
  | .and => "and"
  | .or => "or"
  | .xor => "xor"
  | .other _ => "?"

def ofCode (code : Int) : ReduceOp :=
  if 0 ≤ code then all.getD code.toNat (.other code) else .other code

def ofText? (s : String) : Option ReduceOp := all.find? (·.text == s)

def isBitwise : ReduceOp → Bool
  | .and | .or | .xor => true
  | _ => false

end ReduceOp

end Lanewise
