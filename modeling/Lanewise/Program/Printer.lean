import Lanewise.Decimal.Layout
import Lanewise.Program.Stmt
import Lanewise.Text.Quoted

/-!
# Program trees as text

One line for each node, two more spaces for each level. Absent nodes print nothing.
-/

namespace Lanewise

def treeLine (level : Nat) (text : String) : String :=
  String.ofList (List.replicate (2 * level) ' ') ++ text ++ "\n"

def WrittenType.text (a : WrittenType) : String := if a.isMut then "mut " ++ a.name else a.name

/-- An annotation is part of the line of its owner and has no line for itself. -/
def WrittenType.print (level : Nat) : String :=
  treeLine level "<unknown node *ast.TypeAnnotation>"

def writtenText : Option WrittenType → String
  | some a => a.text
  | none => "<none>"

def Param.print (level : Nat) (p : Param) : String :=
  treeLine level (p.name ++ ": " ++ writtenText p.written)

namespace Expr

mutual
def print (level : Nat) : Expr → String
  | .absent => ""
  | .int _ value => treeLine level ("Int: " ++ toString value)
  | .float _ value => treeLine level ("Float: " ++ value.text)
  | .bool _ value => treeLine level ("Bool: " ++ if value then "true" else "false")
  | .string _ value => treeLine level ("String: " ++ Text.quoted value)
  | .ident _ name => treeLine level ("Ident: " ++ name)
  | .binary _ op left right =>
    treeLine level ("Binary: " ++ op.text) ++ left.print (level + 1) ++ right.print (level + 1)
  | .unary _ op operand => treeLine level ("Unary: " ++ op.text) ++ operand.print (level + 1)
  | .call _ callee args =>
    treeLine level "Call" ++ treeLine (level + 1) "Callee:" ++ callee.print (level + 2) ++
      if args.isEmpty then ""
      else treeLine (level + 1) "Args:" ++ printAll (level + 2) args
  | .group _ inner => treeLine level "Group" ++ inner.print (level + 1)
  | .index _ object place =>
    treeLine level "Index" ++ object.print (level + 1) ++ place.print (level + 1)
  | .field _ object name => treeLine level ("Field: ." ++ name) ++ object.print (level + 1)
  | .vector _ elements kind =>
    let shown := if kind == "" then "<inferred>" else kind
    treeLine level ("Vector: " ++ shown ++ " (" ++ toString elements.length ++ " elements)") ++
      printAll (level + 1) elements
  | .lanewise _ op left right =>
    treeLine level ("Elementwise: " ++ op.text) ++ left.print (level + 1) ++
      right.print (level + 1)
  | .broadcast _ op one across =>
    treeLine level ("Broadcast: " ++ op.text) ++ one.print (level + 1) ++ across.print (level + 1)
  | .reduce _ op operand => treeLine level ("Reduce: " ++ op.text) ++ operand.print (level + 1)
  | .dot _ left right =>
    treeLine level "Dot" ++ left.print (level + 1) ++ right.print (level + 1)
  | .swizzle _ operand pattern =>
    treeLine level ("Swizzle: " ++ pattern) ++ operand.print (level + 1)
  | .load _ address kind => treeLine level ("Load: " ++ kind) ++ address.print (level + 1)
  | .store _ address value =>
    treeLine level "Store" ++ address.print (level + 1) ++ value.print (level + 1)
def printAll (level : Nat) : List Expr → String
  | [] => ""
  | e :: es => e.print level ++ printAll level es
end

def printUnder (level : Nat) (heading : String) (e : Expr) : String :=
  if e.isAbsent then "" else treeLine (level + 1) heading ++ e.print (level + 2)

end Expr

def FnHead.print (level : Nat) (head : FnHead) : String :=
  treeLine level ("Function: " ++ head.name) ++
    (if head.params.isEmpty then treeLine (level + 1) "Params: none"
      else treeLine (level + 1) "Params:" ++ String.join (head.params.map (·.print (level + 2)))) ++
    match head.returns with
    | some a => treeLine (level + 1) ("Returns: " ++ a.text)
    | none => ""

namespace Stmt

mutual
def print (level : Nat) : Stmt → String
  | .absent => ""
  | .fn head _ body =>
    head.print level ++ treeLine (level + 1) "Body:" ++ treeLine (level + 2) "Block" ++
      printAll (level + 3) body
  | .prototype head => head.print level
  | .letDecl _ name isMut written value =>
    let typed := match written with
      | some a => ": " ++ a.text
      | none => ""
    treeLine level ("Let: " ++ (if isMut then "mut " else "") ++ name ++ typed) ++
      value.print (level + 1)
  | .ret _ value => treeLine level "Return" ++ value.print (level + 1)
  | .block _ body => treeLine level "Block" ++ printAll (level + 1) body
  | .ifElse _ condition yes no =>
    treeLine level "If" ++ treeLine (level + 1) "Condition:" ++ condition.print (level + 2) ++
      treeLine (level + 1) "Then:" ++ yes.print (level + 2) ++
      if no.isAbsent then "" else treeLine (level + 1) "Else:" ++ no.print (level + 2)
  | .whileLoop _ condition body =>
    treeLine level "While" ++ treeLine (level + 1) "Condition:" ++ condition.print (level + 2) ++
      treeLine (level + 1) "Body:" ++ body.print (level + 2)
  | .forLoop _ init condition step body =>
    treeLine level "For" ++
      (if init.isAbsent then "" else treeLine (level + 1) "Init:" ++ init.print (level + 2)) ++
      condition.printUnder level "Condition:" ++ step.printUnder level "Increment:" ++
      treeLine (level + 1) "Body:" ++ body.print (level + 2)
  | .expr _ value => treeLine level "ExprStmt" ++ value.print (level + 1)
def printAll (level : Nat) : List Stmt → String
  | [] => ""
  | s :: rest => s.print level ++ printAll level rest
end

end Stmt

namespace Program

def print (p : Program) : String :=
  let name := if p.name == "" then "<anonymous>" else p.name
  treeLine 0 ("Program: " ++ name) ++ Stmt.printAll 1 p.statements

end Program

end Lanewise
