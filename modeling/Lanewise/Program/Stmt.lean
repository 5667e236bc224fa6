import Lanewise.Program.Expr

/-!
# Statements and programs

`absent` stands where a statement is missing or left out. A function with a body and a function
without one are two forms.
-/

namespace Lanewise

structure WrittenType where
  name : String
  isMut : Bool
  pos : Pos
  deriving DecidableEq, Repr, Inhabited

structure Param where
  name : String
  written : Option WrittenType
  pos : Pos
  deriving DecidableEq, Repr, Inhabited

structure FnHead where
  pos : Pos
  name : String
  params : List Param
  /-- Nothing means the unit type. -/
  returns : Option WrittenType
  deriving DecidableEq, Repr, Inhabited

inductive Stmt
  | absent
  | fn (head : FnHead) (bodyPos : Pos) (body : List Stmt)
  | prototype (head : FnHead)
  | letDecl (pos : Pos) (name : String) (isMut : Bool) (written : Option WrittenType)
      (value : Expr)
  | ret (pos : Pos) (value : Expr)
  | block (pos : Pos) (body : List Stmt)
  | ifElse (pos : Pos) (condition : Expr) (yes no : Stmt)
  | whileLoop (pos : Pos) (condition : Expr) (body : Stmt)
  | forLoop (pos : Pos) (init : Stmt) (condition step : Expr) (body : Stmt)
  | expr (pos : Pos) (value : Expr)
  deriving Repr, Inhabited

namespace Stmt

def pos : Stmt → Pos
  | .absent => .none
  | .fn head _ _ | .prototype head => head.pos
  | .letDecl p .. | .ret p _ | .block p _ | .ifElse p .. | .whileLoop p .. | .forLoop p ..
  | .expr p _ => p

def isAbsent : Stmt → Bool
  | .absent => true
  | _ => false

mutual
def paths : Stmt → List Path
  | .absent | .prototype _ => []
  | .fn _ _ body | .block _ body => pathsFrom 0 body
  | .letDecl _ _ _ _ value | .ret _ value | .expr _ value => value.paths.map (0 :: ·)
  | .ifElse _ condition yes no =>
    condition.paths.map (0 :: ·) ++ yes.paths.map (1 :: ·) ++ no.paths.map (2 :: ·)
  | .whileLoop _ condition body => condition.paths.map (0 :: ·) ++ body.paths.map (1 :: ·)
  | .forLoop _ init condition step body =>
    init.paths.map (0 :: ·) ++ condition.paths.map (1 :: ·) ++ step.paths.map (2 :: ·) ++
      body.paths.map (3 :: ·)
def pathsFrom (n : Nat) : List Stmt → List Path
  | [] => []
  | s :: rest => s.paths.map (n :: ·) ++ pathsFrom (n + 1) rest
end

end Stmt

structure Program where
  name : String
  statements : List Stmt
  deriving Repr, Inhabited

namespace Program

def pos (p : Program) : Pos :=
  match p.statements with
  | [] => .none
  | s :: _ => s.pos

end Program

end Lanewise
