import Lanewise.Check.WrittenType
import Lanewise.Check.Expr

/-!
# Checking statements

Statements are checked one after the other against a context that grows with each declaration.
Whatever opens a scope closes it again, whether the statements in it are in order or not, and a
function whose body is not in order leaves no binding behind.
-/

namespace Lanewise

structure Checker where
  context : Context
  types : TypeLog := []
  /-- The functions whose declarations were in order, oldest first. -/
  declared : List (String × Signature) := []

structure Rules where
  detector : Detector
  /-- Type names without a definition are taken as types of the user. -/
  isLenient : Bool

abbrev CheckM := ExceptT TypeError (StateM Checker)

namespace CheckM

variable {α : Type}

def fail (pos : Pos) (fault : Fault) : CheckM α := throw ⟨pos, fault⟩

def context : CheckM Context := return (← get).context

def changeContext (f : Context → Context) : CheckM Unit :=
  modify fun c => { c with context := f c.context }

def ofInference (m : Inference α) : CheckM α := do
  modify fun c => { c with types := c.types ++ m.types }
  liftExcept m.result
where
  liftExcept : Except TypeError α → CheckM α
    | .ok a => pure a
    | .error e => throw e

def below (n : Nat) (m : CheckM α) : CheckM α := fun c =>
  let (result, after) := m { c with types := [] }
  (result, { after with types := c.types ++ after.types.below n })

/-- Runs a check in a scope of its own, which is closed also after an error. -/
def inScope (opening : Context → Context) (m : CheckM α) : CheckM α := fun c =>
  let (result, after) := m { c with context := opening c.context }
  (result, { after with context := after.context.pop })

/-- Runs a check and, after an error, drops the bindings made since. -/
def atomically (m : CheckM α) : CheckM α := fun c =>
  match m c with
  | (.ok a, after) => (.ok a, after)
  | (.error e, after) =>
    (.error e, { after with context := after.context.rollback c.context.mark })

def noteFunction (name : String) (sig : Signature) : CheckM Unit :=
  modify fun c => { c with declared := c.declared ++ [(name, sig)] }

end CheckM

open CheckM (fail below inScope)

namespace Rules

def infer (r : Rules) (e : Expr) : CheckM Ty := do
  CheckM.ofInference (e.infer r.detector (← CheckM.context))

def resolve (r : Rules) (a : WrittenType) : CheckM Ty := do
  let c ← CheckM.context
  match a.resolve { isLenient := r.isLenient, opaqueNames := c.opaqueNames } with
  | .ok t => return t
  | .error e => throw e

def resolve? (r : Rules) : Option WrittenType → CheckM (Option Ty)
  | none => return none
  | some a => return some (← r.resolve a)

def infer? (r : Rules) : Expr → CheckM (Option Ty)
  | .absent => return none
  | e => return some (← r.infer e)

def checkCondition (r : Rules) (statement : Conditional) (e : Expr) : CheckM Unit := do
  let t ← r.infer e
  if !t.isCondition then fail e.pos (.condition statement t)

def resolveParams (r : Rules) (function : String) : List Param → CheckM (List Ty)
  | [] => return []
  | p :: rest =>
    match p.written with
    | none => fail p.pos (.untypedParam p.name function)
    | some a => return (← r.resolve a) :: (← r.resolveParams function rest)

def variableType (pos : Pos) (name : String) : Option Ty → Option Ty → CheckM Ty
  | some declared, some value =>
    if declared.compatible value then return declared
    else fail pos (.initializer name declared value)
  | some declared, none => return declared
  | none, some value => return value
  | none, none => fail pos (.untypedVariable name)

def checkLet (r : Rules) (pos : Pos) (name : String) (isMut : Bool)
    (written : Option WrittenType) (value : Expr) : CheckM Unit := do
  let declared ← r.resolve? written
  let actual ← below 0 (r.infer? value)
  let ty ← variableType pos name declared (actual.filter (!·.isAbsent))
  CheckM.changeContext (·.defineVariable { name, ty, isMut, kind := .variable })

def checkReturn (r : Rules) (pos : Pos) (value : Expr) : CheckM Unit := do
  match (← CheckM.context).returnType? with
  | none => fail pos .returnOutside
  | some expected =>
    -- A return without a value returns unit.
    let actual := (← below 0 (r.infer? value)).getD .unit
    if !expected.compatible actual then fail pos (.returned expected actual)

def defineParams (params : List Param) (types : List Ty) : CheckM Unit :=
  CheckM.changeContext fun c =>
    (params.zip types).foldl (fun c (p, ty) =>
      let isMut := p.written.any (·.isMut)
      c.defineVariable { name := p.name, ty, isMut, kind := .parameter }) c

/-- Checks a function. Its signature is bound before its body is checked, so it can call
itself. -/
def checkFunction (r : Rules) (head : FnHead) (body : CheckM Unit) : CheckM Unit := do
  let params ← r.resolveParams head.name head.params
  let ret := (← r.resolve? head.returns).getD .unit
  let sig : Signature := ⟨params, ret, false⟩
  CheckM.atomically do
    CheckM.changeContext (·.defineFunction head.name (some sig))
    inScope (·.enter ret) do
      defineParams head.params params
      body
  CheckM.noteFunction head.name sig

end Rules

/-- The check of a branch or of the body of a loop, given the check of the statement. Every
statement gets a scope; a block opens one itself. -/
def Stmt.asBranch (s : Stmt) (check : CheckM Unit) : CheckM Unit :=
  match s with
  | .absent | .block .. => check
  | _ => inScope Context.push check

namespace Stmt

mutual
def check (r : Rules) : Stmt → CheckM Unit
  | .absent => return
  | .fn head _ body => r.checkFunction head (checkAll r 0 body)
  | .prototype head => r.checkFunction head (return)
  | .letDecl pos name isMut written value => r.checkLet pos name isMut written value
  | .ret pos value => r.checkReturn pos value
  | .block _ body => inScope Context.push (checkAll r 0 body)
  | .ifElse _ condition yes no => do
    below 0 (r.checkCondition .ifElse condition)
    below 1 (yes.asBranch (check r yes))
    below 2 (no.asBranch (check r no))
  | .whileLoop _ condition body => do
    below 0 (r.checkCondition .whileLoop condition)
    below 1 (body.asBranch (check r body))
  | .forLoop _ init condition step body => inScope Context.push do
    below 0 (check r init)
    if !condition.isAbsent then below 1 (r.checkCondition .forLoop condition)
    -- The step comes before the body, whose declarations it must not see.
    let _ ← below 2 (r.infer? step)
    below 3 (check r body)
  | .expr _ value => do
    let _ ← below 0 (r.infer value)
def checkAll (r : Rules) (n : Nat) : List Stmt → CheckM Unit
  | [] => return
  | s :: rest => do
    below n (check r s)
    checkAll r (n + 1) rest
end

end Stmt

end Lanewise
