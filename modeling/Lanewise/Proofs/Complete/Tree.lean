import Lanewise.Check.Fault
import Lanewise.Program.Stmt

/-!
# Complete programs

In a complete program nothing is missing that its forms ask for, and every operator is one that has
a spelling. The faults of a tree are those that a check can only find where a tree is not complete.
-/

namespace Lanewise

-- ---------------------------------------------------------------------------
-- Trees
-- ---------------------------------------------------------------------------

inductive Expr.Complete : Expr → Prop
  | int : Complete (.int p n)
  | float : Complete (.float p x)
  | bool : Complete (.bool p b)
  | string : Complete (.string p s)
  | ident : Complete (.ident p x)
  | binary (hop : op ∈ BinaryOp.all) (hl : Complete l) (hr : Complete r) :
      Complete (.binary p op l r)
  | unary (hop : op ∈ UnaryOp.all) (he : Complete e) : Complete (.unary p op e)
  | call (hf : Complete f) (hargs : ∀ e ∈ args, Complete e) : Complete (.call p f args)
  | group (he : Complete e) : Complete (.group p e)
  | index (ho : Complete o) (hi : Complete i) : Complete (.index p o i)
  | field (ho : Complete o) : Complete (.field p o name)
  | vector (hes : ∀ e ∈ es, Complete e) : Complete (.vector p es kind)
  | lanewise (hop : op ∈ LaneOp.all) (hl : Complete l) (hr : Complete r) :
      Complete (.lanewise p op l r)
  | broadcast (hop : op ∈ LaneOp.all) (hs : Complete s) (hv : Complete v) :
      Complete (.broadcast p op s v)
  | reduce (hop : op ∈ ReduceOp.all) (he : Complete e) : Complete (.reduce p op e)
  | dot (hl : Complete l) (hr : Complete r) : Complete (.dot p l r)
  | swizzle (he : Complete e) : Complete (.swizzle p e pattern)
  | load (ha : Complete a) : Complete (.load p a kind)
  | store (ha : Complete a) (he : Complete e) : Complete (.store p a e)

def Expr.CompleteIfAny (e : Expr) : Prop := e ≠ .absent → e.Complete

/-- Functions have bodies and parameters have names. Branches and bodies of loops are blocks; only
the branch for the other case and the clauses of a loop may be left out. -/
inductive Stmt.Complete : Stmt → Prop
  | fn (hparams : ∀ param ∈ head.params, param.name ≠ "") (hbody : ∀ s ∈ body, Complete s) :
      Complete (.fn head p body)
  | letDecl (hvalue : value.CompleteIfAny) : Complete (.letDecl p x isMut written value)
  | ret (hvalue : value.CompleteIfAny) : Complete (.ret p value)
  | block (hbody : ∀ s ∈ body, Complete s) : Complete (.block p body)
  | ifOnly (hc : e.Complete) (hyes : Complete (.block q yes)) :
      Complete (.ifElse p e (.block q yes) .absent)
  | ifElse (hc : e.Complete) (hyes : Complete (.block q yes)) (hno : Complete (.block q' no)) :
      Complete (.ifElse p e (.block q yes) (.block q' no))
  | whileLoop (hc : e.Complete) (hbody : Complete (.block q body)) :
      Complete (.whileLoop p e (.block q body))
  | forLoop (hinit : init ≠ .absent → Complete init) (hc : e.CompleteIfAny)
      (hstep : step.CompleteIfAny) (hbody : Complete (.block q body)) :
      Complete (.forLoop p init e step (.block q body))
  | expr (he : e.Complete) : Complete (.expr p e)

def Program.Complete (p : Program) : Prop := ∀ s ∈ p.statements, s.Complete

-- ---------------------------------------------------------------------------
-- Faults of the tree
-- ---------------------------------------------------------------------------

/-- The faults that lie in the tree and not in its types or names. -/
def Fault.isStructural : Fault → Bool
  | .missingExpression | .unknownBinary | .unknownUnary => true
  | _ => false

end Lanewise
