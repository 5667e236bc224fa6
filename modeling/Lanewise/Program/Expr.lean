import Lanewise.Decimal.Binary64
import Lanewise.Operator
import Lanewise.Pos

/-!
# Expressions

The expressions of a program, each with its position. `absent` stands where an expression is
missing, so that a checker can say so.
-/

namespace Lanewise

open Decimal (Binary64)

inductive Expr
  | absent
  | int (pos : Pos) (value : Int)
  | float (pos : Pos) (value : Binary64)
  | bool (pos : Pos) (value : Bool)
  | string (pos : Pos) (value : String)
  | ident (pos : Pos) (name : String)
  | binary (pos : Pos) (op : BinaryOp) (left right : Expr)
  | unary (pos : Pos) (op : UnaryOp) (operand : Expr)
  | call (pos : Pos) (callee : Expr) (args : List Expr)
  | group (pos : Pos) (inner : Expr)
  | index (pos : Pos) (object index : Expr)
  | field (pos : Pos) (object : Expr) (name : String)
  /-- A vector literal; the kind is empty if it is to be inferred. -/
  | vector (pos : Pos) (elements : List Expr) (kind : String)
  | lanewise (pos : Pos) (op : LaneOp) (left right : Expr)
  | broadcast (pos : Pos) (op : LaneOp) (scalar vector : Expr)
  | reduce (pos : Pos) (op : ReduceOp) (operand : Expr)
  | dot (pos : Pos) (left right : Expr)
  | swizzle (pos : Pos) (operand : Expr) (pattern : String)
  | load (pos : Pos) (address : Expr) (kind : String)
  | store (pos : Pos) (address value : Expr)
  deriving Repr, Inhabited

namespace Expr

def pos : Expr → Pos
  | .absent => .none
  | .int p _ | .float p _ | .bool p _ | .string p _ | .ident p _ | .binary p .. | .unary p ..
  | .call p .. | .group p _ | .index p .. | .field p .. | .vector p .. | .lanewise p ..
  | .broadcast p .. | .reduce p .. | .dot p .. | .swizzle p .. | .load p .. | .store p .. => p

def isAbsent : Expr → Bool
  | .absent => true
  | _ => false

def children : Expr → List Expr
  | .absent | .int .. | .float .. | .bool .. | .string .. | .ident .. => []
  | .binary _ _ l r | .lanewise _ _ l r | .broadcast _ _ l r | .dot _ l r | .store _ l r
  | .index _ l r => [l, r]
  | .unary _ _ e | .group _ e | .field _ e _ | .reduce _ _ e | .swizzle _ e _ | .load _ e _ => [e]
  | .call _ f args => f :: args
  | .vector _ es _ => es

end Expr

/-- The way from a node down to one below it: the number of a child at each step. -/
abbrev Path := List Nat

namespace Expr

mutual
/-- Where the expressions of a tree are, a node before its operands. -/
def paths : Expr → List Path
  | .absent => []
  | .int .. | .float .. | .bool .. | .string .. | .ident .. => [[]]
  | .binary _ _ l r | .lanewise _ _ l r | .broadcast _ _ l r | .dot _ l r | .store _ l r
  | .index _ l r => [] :: (l.paths.map (0 :: ·) ++ r.paths.map (1 :: ·))
  | .unary _ _ e | .group _ e | .field _ e _ | .reduce _ _ e | .swizzle _ e _ | .load _ e _ =>
    [] :: e.paths.map (0 :: ·)
  | .call _ f args => [] :: (f.paths.map (0 :: ·) ++ pathsFrom 1 args)
  | .vector _ es _ => [] :: pathsFrom 0 es
def pathsFrom (n : Nat) : List Expr → List Path
  | [] => []
  | e :: es => e.paths.map (n :: ·) ++ pathsFrom (n + 1) es
end

end Expr

end Lanewise
