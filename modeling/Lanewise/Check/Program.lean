import Lanewise.Check.Stmt

/-!
# Checking programs

A checker starts with the builtin functions and the names declared as types, and checks the
statements of a program in order.
-/

namespace Lanewise

structure CheckOptions where
  detector : Detector
  isLenient : Bool := false
  /-- Type names that annotations may use without a definition. -/
  opaqueTypes : List String := []

namespace CheckOptions

def rules (o : CheckOptions) : Rules := { detector := o.detector, isLenient := o.isLenient }

end CheckOptions

namespace Checker

def fresh (o : CheckOptions) : Checker :=
  { context := o.opaqueTypes.foldl Context.declareOpaque Context.initial }

/-- Checks one statement and gives the checker afterwards, whether it is in order or not. -/
def checkStmt (c : Checker) (r : Rules) (s : Stmt) : Except TypeError Unit × Checker := s.check r c

def checkExpr (c : Checker) (r : Rules) (e : Expr) : Except TypeError Ty × Checker := r.infer e c

end Checker

namespace Program

def run (p : Program) (o : CheckOptions) : Except TypeError Unit × Checker :=
  Stmt.checkAll o.rules 0 p.statements (Checker.fresh o)

/-- What a check leaves behind if the program is in order: the names at its end and the types of
its expressions. -/
def check (p : Program) (o : CheckOptions) : Except TypeError Checker :=
  match p.run o with
  | (.ok (), c) => .ok c
  | (.error e, _) => .error e

/-- The type found for each expression of a program, a node before its operands. -/
def exprTypes (p : Program) (c : Checker) : List (Option Ty) :=
  (Stmt.pathsFrom 0 p.statements).map c.types.typeAt?

end Program

end Lanewise
