import Lanewise.Program.Stmt

/-!
# Names that a program reads, writes and declares

`reads` lists the names an expression reads. A plain assignment to a name does not read it, a
compound one does. `writes` lists the names that can change: those assigned to and those whose
address is taken, as a store may write through it.
-/

namespace Lanewise

namespace Expr

def name? : Expr → Option String
  | .ident _ name => some name
  | _ => none

def assignedName (op : BinaryOp) (left : Expr) : List String :=
  if op.isAssignment then left.name?.toList else []

def addressedName (op : UnaryOp) (operand : Expr) : List String :=
  if op == .ref then operand.name?.toList else []

mutual
def reads : Expr → List String
  | .absent | .int .. | .float .. | .bool .. | .string .. => []
  | .ident _ name => [name]
  | .binary _ op l r =>
    -- Only a bare name on the left of a plain assignment is written without being read.
    (if l.name?.isSome && op == .assign then [] else l.reads) ++ r.reads
  | .lanewise _ _ l r | .broadcast _ _ l r | .dot _ l r | .store _ l r | .index _ l r =>
    l.reads ++ r.reads
  | .unary _ _ e | .group _ e | .field _ e _ | .reduce _ _ e | .swizzle _ e _ | .load _ e _ =>
    e.reads
  | .call _ f args => f.reads ++ readsOfAll args
  | .vector _ es _ => readsOfAll es
def readsOfAll : List Expr → List String
  | [] => []
  | e :: es => e.reads ++ readsOfAll es
end

mutual
/-- The names that an expression can change. Operands of indexing, field access and of the vector
operators other than load and store are not searched. -/
def writes : Expr → List String
  | .binary _ op l r => assignedName op l ++ l.writes ++ r.writes
  | .unary _ op e => addressedName op e ++ e.writes
  | .call _ _ args => writesOfAll args
  | .group _ e | .load _ e _ => e.writes
  | .store _ l r => l.writes ++ r.writes
  | _ => []
def writesOfAll : List Expr → List String
  | [] => []
  | e :: es => e.writes ++ writesOfAll es
end

end Expr

structure Declared where
  name : String
  isMut : Bool
  pos : Pos
  deriving DecidableEq, Repr

namespace Stmt

mutual
/-- The names that a statement reads, functions inside it included. -/
def reads : Stmt → List String
  | .absent | .prototype _ => []
  | .fn _ _ body | .block _ body => readsOfAll body
  | .letDecl _ _ _ _ value | .ret _ value | .expr _ value => value.reads
  | .ifElse _ condition yes no => condition.reads ++ yes.reads ++ no.reads
  | .whileLoop _ condition body => condition.reads ++ body.reads
  | .forLoop _ init condition step body =>
    init.reads ++ condition.reads ++ step.reads ++ body.reads
def readsOfAll : List Stmt → List String
  | [] => []
  | s :: rest => s.reads ++ readsOfAll rest
end

mutual
/-- The names that a statement can change. Functions inside it are not searched. -/
def writes : Stmt → List String
  | .absent | .prototype _ | .fn .. => []
  | .block _ body => writesOfAll body
  | .letDecl _ _ _ _ value | .ret _ value | .expr _ value => value.writes
  | .ifElse _ condition yes no => condition.writes ++ yes.writes ++ no.writes
  | .whileLoop _ condition body => condition.writes ++ body.writes
  | .forLoop _ init condition step body =>
    init.writes ++ condition.writes ++ step.writes ++ body.writes
def writesOfAll : List Stmt → List String
  | [] => []
  | s :: rest => s.writes ++ writesOfAll rest
end

mutual
/-- The variables that a statement declares, those of functions inside it left out. -/
def declares : Stmt → List Declared
  | .letDecl pos name isMut _ _ => [{ name, isMut, pos }]
  | .block _ body => declaresOfAll body
  | .ifElse _ _ yes no => yes.declares ++ no.declares
  | .whileLoop _ _ body => body.declares
  | .forLoop _ init _ _ body => init.declares ++ body.declares
  | _ => []
def declaresOfAll : List Stmt → List Declared
  | [] => []
  | s :: rest => s.declares ++ declaresOfAll rest
end

end Stmt

end Lanewise
