import Lanewise.Fixture.Form
import Lanewise.Program.Stmt
import Lanewise.Text.Blank

/-!
# Readings of a node

The same node can be asked for as an expression, a statement or a list of either, and whoever asks
looks through aliases himself. A mapping is split into a form before the nodes in it are read, so
the form holds `Reading`s: nodes with answers that are worked out only if they are asked for.

Plain scalars are literals and identifiers, quoted scalars are strings.
-/

namespace Lanewise.Fixture

open Yaml (Node)

abbrev Read := Except Flaw

structure Reading where
  node : Node
  askExpr : Unit → Read Expr
  askStmt : Unit → Read Stmt
  askExprs : Unit → Read (List Expr)
  askStmts : Unit → Read (List Stmt)

namespace Reading

def expr (r : Reading) : Read Expr := r.askExpr ()

def stmt (r : Reading) : Read Stmt := r.askStmt ()

def exprs (r : Reading) : Read (List Expr) := r.askExprs ()

def stmts (r : Reading) : Read (List Stmt) := r.askStmts ()

def pos (r : Reading) : Pos := r.node.pos

def isNull (r : Reading) : Bool := r.node.isNull

/-- The statements of a block and its place, which is never that of an alias. -/
def block (r : Reading) : Read (Pos × List Stmt) := return (r.node.resolve.pos, ← r.stmts)

end Reading

/-- The text of a scalar without the blanks around it. Null is no scalar here. -/
def scalarText (n : Node) : Read String :=
  let n := n.resolve
  match n with
  | .scalar _ tag _ text =>
    if n.isNull then .error ⟨n.pos, .notScalar tag⟩ else .ok (Text.trim text)
  | _ => .error ⟨n.pos, .notScalar n.tag⟩

/-- A boolean, false if it is null. What is wrong with an alias is wrong where the alias stands. -/
def boolean (n : Node) : Read Bool :=
  match n.resolve.bool? with
  | some b => .ok (b.getD false)
  | none => .error ⟨n.pos, .notBool⟩

/-- An annotation, at the place of the node even if it is an alias. -/
def writtenType (n : Node) : Read WrittenType := do
  return { name := ← scalarText n, isMut := false, pos := n.pos }

/-- What a scalar is as an expression. The tag of a plain scalar tells literals from
identifiers. -/
def literal (pos : Pos) (tag : String) (style : Yaml.Style) (text : String) : Read Expr :=
  if style.isQuoted then .ok (.string pos text)
  else if tag == "!!int" then
    match Yaml.Value.ofTagged? tag text with
    | some (.int n) =>
      if n < Decimal.Binary64.intBound then .ok (.int pos n)
      else .error ⟨pos, .badLiteral .int text⟩
    | _ => .error ⟨pos, .badLiteral .int text⟩
  else if tag == "!!float" then
    match Yaml.Value.ofTagged? tag text with
    | some (.float x) => .ok (.float pos x)
    | _ => .error ⟨pos, .badLiteral .float text⟩
  else if tag == "!!bool" then
    match Yaml.Value.ofTagged? tag text with
    | some (.bool b) => .ok (.bool pos b)
    | _ => .error ⟨pos, .badLiteral .bool text⟩
  else if tag == "!!null" then .error ⟨pos, .missingExpression⟩
  else .ok (.ident pos text)

namespace Form

/-- A field that is there and not null. -/
def given? (f : Form Reading) (name : String) : Option Reading :=
  (f.field? name).filter (!·.isNull)

def require (f : Form Reading) (name : String) : Read Reading :=
  match f.given? name with
  | some r => .ok r
  | none => .error ⟨f.pos, .missingField f.name name⟩

def operand (f : Form Reading) (name : String) : Read Expr := do (← f.require name).expr

def optionalExpr (f : Form Reading) (name : String) : Read Expr :=
  match f.given? name with
  | some r => r.expr
  | none => .ok .absent

def optionalType (f : Form Reading) (name : String) : Read (Option WrittenType) :=
  match f.given? name with
  | some r => some <$> writtenType r.node
  | none => .ok none

def optionalKind (f : Form Reading) : Read String :=
  match f.given? "kind" with
  | some r => scalarText r.node
  | none => .ok ""

def operator {Op : Type} (f : Form Reading) (operators : OperatorClass)
    (ofText? : String → Option Op) : Read Op := do
  let spelling ← scalarText f.head.node
  match ofText? spelling with
  | some op => return op
  | none => throw ⟨f.head.pos, .unknownOperator operators spelling⟩

def exprs (f : Form Reading) (name : String) : Read (List Expr) :=
  match f.field? name with
  | some r => r.exprs
  | none => .ok []

/-- The block in a field, or `other` if there is no such field. A field that is null is an empty
block. -/
def blockOr (f : Form Reading) (name : String) (other : Stmt) : Read Stmt :=
  match f.field? name with
  | some r => do
    let (pos, body) ← r.block
    return .block pos body
  | none => .ok other

end Form

def twoOperands (pos : Pos) : List Expr → Read (Expr × Expr)
  | [a, b] => .ok (a, b)
  | operands => .error ⟨pos, .dotOperands operands.length⟩

def compound (f : Form Reading) : Read Expr := do
  match f.name with
  | "binary" =>
    let op ← f.operator .binary BinaryOp.ofText?
    return .binary f.pos op (← f.operand "left") (← f.operand "right")
  | "unary" =>
    let op ← f.operator .unary UnaryOp.ofText?
    return .unary f.pos op (← f.operand "operand")
  | "call" => return .call f.pos (← f.head.expr) (← f.exprs "args")
  | "group" => return .group f.pos (← f.head.expr)
  | "index" => return .index f.pos (← f.head.expr) (← f.operand "at")
  | "field" =>
    let name ← scalarText f.head.node
    return .field f.pos (← f.operand "of") name
  | "vector" => return .vector f.pos (← f.head.exprs) (← f.optionalKind)
  | "simd" =>
    let op ← f.operator .lanewise LaneOp.ofText?
    return .lanewise f.pos op (← f.operand "left") (← f.operand "right")
  | "broadcast" =>
    let op ← f.operator .lanewise LaneOp.ofText?
    return .broadcast f.pos op (← f.operand "scalar") (← f.operand "across")
  | "reduce" =>
    let op ← f.operator .reduction ReduceOp.ofText?
    return .reduce f.pos op (← f.operand "operand")
  | "dot" =>
    let (left, right) ← twoOperands f.head.pos (← f.head.exprs)
    return .dot f.pos left right
  | "swizzle" =>
    let pattern ← scalarText f.head.node
    return .swizzle f.pos (← f.operand "of") pattern
  | "load" => return .load f.pos (← f.head.expr) (← f.optionalKind)
  | _ => return .store f.pos (← f.head.expr) (← f.operand "value")

structure ParamDraft where
  name : String := ""
  written : Option WrittenType := none
  isMut : Bool := false

namespace ParamDraft

/-- Takes one field in. A field given twice keeps its last value. -/
def take (draft : ParamDraft) (field : Node × Node) : Read ParamDraft := do
  let (key, value) := (field.1, field.2.resolve)
  match key.keyText with
  | "name" => return { draft with name := ← scalarText value }
  | "type" => return { draft with written := some (← Fixture.writtenType value) }
  | "mut" => return { draft with isMut := ← boolean value }
  | other => throw ⟨key.pos, .unknownParamField other⟩

end ParamDraft

/-- A parameter. Its type may be missing, which is for the checker to report. -/
def param (n : Node) : Read Param := do
  match n.resolve with
  | .mapping pos _ fields =>
    let draft ← fields.foldlM ParamDraft.take {}
    if draft.name == "" then throw ⟨pos, .paramWithoutName⟩
    return {
      name := draft.name
      written := draft.written.map fun a => { a with isMut := draft.isMut }
      pos }
  | other => throw ⟨other.pos, .paramNotMapping⟩

def params (f : Form Reading) : Read (List Param) :=
  match f.given? "params" with
  | none => .ok []
  | some r =>
    match r.node with
    | .sequence _ _ items => items.mapM param
    | other => .error ⟨other.pos, .notParams⟩

/-- The body of a function and its place, which is that of the function if it is left out. -/
def body (f : Form Reading) : Read (Pos × List Stmt) :=
  match f.field? "body" with
  | some r => r.block
  | none => .ok (f.pos, [])

def loopStart (f : Form Reading) : Read Stmt :=
  match f.given? "init" with
  | some r => r.stmt
  | none => .ok .absent

def mutability (f : Form Reading) : Read Bool :=
  match f.field? "mut" with
  | some r => boolean r.node
  | none => .ok false

def statement (f : Form Reading) : Read Stmt := do
  match f.name with
  | "fn" =>
    let name ← scalarText f.head.node
    let params ← params f
    let returns ← f.optionalType "returns"
    let (bodyPos, body) ← body f
    return .fn { pos := f.pos, name, params, returns } bodyPos body
  | "let" =>
    let name ← scalarText f.head.node
    let written ← f.optionalType "type"
    let isMut ← mutability f
    return .letDecl f.pos name isMut written (← f.optionalExpr "value")
  | "return" =>
    if f.head.isNull then return .ret f.pos .absent else return .ret f.pos (← f.head.expr)
  | "block" => return .block f.pos (← f.head.block).2
  | "if" =>
    let condition ← f.head.expr
    let (thenPos, yes) ← (← f.require "then").block
    return .ifElse f.pos condition (.block thenPos yes) (← f.blockOr "else" .absent)
  | "while" =>
    return .whileLoop f.pos (← f.head.expr) (← f.blockOr "body" (.block f.pos []))
  | "for" =>
    if !f.head.isNull then throw ⟨f.head.pos, .loopHead⟩
    let init ← loopStart f
    let condition ← f.optionalExpr "cond"
    let step ← f.optionalExpr "step"
    return .forLoop f.pos init condition step (← f.blockOr "body" (.block f.pos []))
  | _ => return .expr f.pos (← f.head.expr)

section
variable (order : KeyOrder)

mutual
def readExpr : Node → Read Expr
  | .scalar pos tag style text => literal pos tag style text
  | .sequence pos tag _ => .error ⟨pos, .notExpression tag⟩
  | .mapping pos _ fields => Form.ofFields order .expression pos (readValues fields) >>= compound
  | .alias _ _ target => readExpr target
def readStmt : Node → Read Stmt
  | .scalar pos tag _ _ | .sequence pos tag _ => .error ⟨pos, .notMapping .statement tag⟩
  | .mapping pos _ fields => Form.ofFields order .statement pos (readValues fields) >>= statement
  | .alias _ _ target => readStmt target
def readExprs : Node → Read (List Expr)
  | .scalar pos tag style text =>
    if (Node.scalar pos tag style text).isNull then .ok [] else .error ⟨pos, .notExpressions tag⟩
  | .sequence _ _ items => readEachExpr items
  | .mapping pos tag _ => .error ⟨pos, .notExpressions tag⟩
  | .alias _ _ target => readExprs target
def readEachExpr : List Node → Read (List Expr)
  | [] => .ok []
  | n :: rest => return (← readExpr n) :: (← readEachExpr rest)
def readStmts : Node → Read (List Stmt)
  | .scalar pos tag style text =>
    if (Node.scalar pos tag style text).isNull then .ok [] else .error ⟨pos, .notStatements tag⟩
  | .sequence _ _ items => readEachStmt items
  | .mapping pos tag _ => .error ⟨pos, .notStatements tag⟩
  | .alias _ _ target => readStmts target
def readEachStmt : List Node → Read (List Stmt)
  | [] => .ok []
  | n :: rest => return (← readStmt n) :: (← readEachStmt rest)
/-- The fields of a mapping. Their values are not aliases any more when they are looked at. -/
def readValues : List (Node × Node) → List (Node × Reading)
  | [] => []
  | (key, value) :: rest =>
    (key, {
      node := value.resolve
      askExpr := fun _ => readExpr value
      askStmt := fun _ => readStmt value
      askExprs := fun _ => readExprs value
      askStmts := fun _ => readStmts value }) :: readValues rest
end

/-- The node that a node stands for, with what is read off it. -/
def Reading.ofNode (n : Node) : Reading where
  node := n.resolve
  askExpr _ := readExpr order n
  askStmt _ := readStmt order n
  askExprs _ := readExprs order n
  askStmts _ := readStmts order n

theorem readValues_eq_map (fields : List (Node × Node)) :
    readValues order fields = fields.map fun field => (field.1, .ofNode order field.2) := by
  induction fields with
  | nil => rfl
  | cons field rest ih =>
    rw [readValues, ih]
    rfl

theorem readEachExpr_eq_mapM (items : List Node) :
    readEachExpr order items = items.mapM (readExpr order) := by
  induction items with
  | nil => rfl
  | cons n rest ih => rw [readEachExpr, ih, List.mapM_cons]

theorem readEachStmt_eq_mapM (items : List Node) :
    readEachStmt order items = items.mapM (readStmt order) := by
  induction items with
  | nil => rfl
  | cons n rest ih => rw [readEachStmt, ih, List.mapM_cons]

theorem Reading.ofNode_alias (pos : Pos) (name : String) (target : Node) :
    ofNode order (.alias pos name target) = ofNode order target := rfl

end

end Lanewise.Fixture
