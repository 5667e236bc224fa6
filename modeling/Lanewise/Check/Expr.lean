import Lanewise.Check.Context
import Lanewise.Check.Inference
import Lanewise.Target.Detector
import Lanewise.Ty.Compatible

/-!
# Typing expressions

`Expr.infer` gives an expression its type in a context, for a target. The context does not change.
The rules for the operators on types stand apart from the walk over the expression, so each of them
can be read on its own.
-/

namespace Lanewise

namespace Ty

def isNumber (t : Ty) : Bool := t.canonical.isNumeric

def isCondition (t : Ty) : Bool := t.canonical == .bool

end Ty

open Inference (fail require)

def BinaryOp.typeOf (op : BinaryOp) (pos : Pos) (left right : Ty) : Inference Ty := do
  if op.isArithmetic then
    require (left.isNumber && right.isNumber) pos (.operands op .numeric left right)
    require (left.mutuallyCompatible right) pos (.undefinedFor op left right)
    return left
  else if op.isOrdering then
    require (left.isComparable && right.isComparable) pos (.operands op .comparable left right)
    require (left.mutuallyCompatible right) pos (.undefinedFor op left right)
    return .bool
  else if op.isEquality then
    require (left.mutuallyCompatible right) pos (.undefinedFor op left right)
    return .bool
  else if op.isLogical then
    require (left.isCondition && right.isCondition) pos (.operands op .boolean left right)
    return .bool
  else if op.isAssignment then
    require (left.compatible right) pos (.assignment left right)
    return left
  else fail pos .unknownBinary

def UnaryOp.typeOf (op : UnaryOp) (pos : Pos) (operand : Ty) : Inference Ty := do
  match op with
  | .neg =>
    require operand.isNumber pos (.negated operand)
    return operand
  | .not =>
    require operand.isCondition pos (.inverted operand)
    return .bool
  | .ref => return .reference operand
  | .other _ => fail pos .unknownUnary

/-- A name stands for a variable or, if there is none, for a function. -/
def Context.typeOfName (c : Context) (pos : Pos) (name : String) : Inference Ty :=
  match c.variableNamed? name with
  | some s => return s.ty
  | none =>
    match c.functionNamed? name with
    | some t => return t
    | none => fail pos (.undefinedVariable name)

def Context.callee (c : Context) (pos : Pos) (name : String) : Inference Signature :=
  match (c.functionNamed? name).bind Ty.signature? with
  | some sig => return sig
  | none =>
    if (c.variableNamed? name).isSome then fail pos (.calledVariable name)
    else fail pos (.undefinedFunction name)

def Signature.checkCount (sig : Signature) (pos : Pos) (name : String) (count : Nat) :
    Inference Unit :=
  let expected := sig.params.length
  if sig.variadic then require (expected ≤ count) pos (.tooFewArguments name expected count)
  else require (count == expected) pos (.argumentCount name expected count)

def Signature.result (sig : Signature) : Ty := if sig.ret.isAbsent then .unit else sig.ret

/-- An argument has to fit its parameter. Further arguments of a variadic function fit always. -/
def checkArgument (name : String) (number : Nat) (params : List Ty) (pos : Pos) (t : Ty) :
    Inference Unit :=
  match params with
  | [] => return
  | p :: _ => require (p.compatible t) pos (.argument number name p t)

def typeOfElement (pos indexPos : Pos) (object offset : Ty) : Inference Ty := do
  require offset.canonical.isInteger indexPos (.indexNotInteger offset)
  match object with
  | .array elem => return elem
  | _ => fail pos (.notIndexable object)

def vectorKind (pos : Pos) (name : String) : Inference VectorKind :=
  match VectorKind.ofName? name with
  | some k => return k
  | none => fail pos (.unknownVectorKind name)

def Detector.requireKind (d : Detector) (pos : Pos) (kind : VectorKind) : Inference Unit :=
  require (d.isSupported kind) pos (.unsupportedKind kind d.name (d.explain kind))

def writtenKind (pos : Pos) (name : String) (count : Nat) : Inference VectorKind := do
  let kind ← vectorKind pos name
  require (count == kind.width) pos (.elementCount kind count)
  return kind

def inferredKind (pos : Pos) (elem : Ty) (count : Nat) : Inference VectorKind :=
  match VectorKind.forLanes? elem count with
  | some k => return k
  | none => fail pos (.noKindFor count elem)

def requireVector (pos : Pos) (place : VectorPlace) (t : Ty) : Inference Unit :=
  require t.isVector pos (.notVector place t)

def LaneOp.check (op : LaneOp) (pos : Pos) (kind : VectorKind) : Inference Unit := do
  require (!(op.isArithmetic && kind.isMask)) pos (.maskArithmetic op kind)
  require (!(op.isDivision && !kind.isFloat)) pos (.integerDivision op kind)
  require (!(op.isBitwise && kind.isFloat)) pos (.floatBitwise op kind)

/-- The type of an operator applied lane by lane, which is that of the left vector also for
comparisons. -/
def LaneOp.typeOf (op : LaneOp) (pos : Pos) (left right : Ty) : Inference Ty := do
  op.check pos left.kind
  require (left.width == right.width) pos (.lanewiseWidths op left right)
  require (left.lane == right.lane) pos (.lanewiseElements op left right)
  return left

def LaneOp.typeOfBroadcast (op : LaneOp) (pos : Pos) (scalar vector : Ty) : Inference Ty := do
  require (!scalar.isVector) pos (.broadcastVector scalar)
  op.check pos vector.kind
  require (vector.lane.compatible scalar) pos (.broadcastElement scalar vector)
  return vector

def ReduceOp.typeOf (op : ReduceOp) (pos : Pos) (vector : Ty) : Inference Ty := do
  require (!(op.isBitwise && vector.kind.isFloat)) pos (.floatReduction op vector)
  return vector.lane

def typeOfDot (pos : Pos) (left right : Ty) : Inference Ty := do
  require (left.width == right.width) pos (.dotWidths left right)
  require (left.kind == right.kind) pos (.dotKinds left right)
  return left.lane

def pointee (access : Access) (pos : Pos) (address : Ty) : Inference Ty :=
  match address with
  | .reference target => return target
  | _ => fail pos (.notReference access address)

/-- The kind of vector a load gives: the one it names, or else the one it points to. -/
def loadedKind (pos : Pos) (name : String) (address : Ty) : Inference VectorKind := do
  let target ← pointee .load pos address
  if name != "" then vectorKind pos name
  else
    match target with
    | .vector kind => return kind
    | _ => fail pos (.loadKind address)

namespace Expr

mutual
def infer (d : Detector) (c : Context) : Expr → Inference Ty
  | .absent => fail .none .missingExpression
  | .int .. => Inference.noted (return .i64)
  | .float .. => Inference.noted (return .f64)
  | .bool .. => Inference.noted (return .bool)
  | .string .. => Inference.noted (return .string)
  | .ident p name => Inference.noted (c.typeOfName p name)
  | .binary p op l r => Inference.noted do
    let left ← (infer d c l).below 0
    let right ← (infer d c r).below 1
    op.typeOf p left right
  | .unary p op e => Inference.noted do
    let t ← (infer d c e).below 0
    op.typeOf p t
  | .call p f args => Inference.noted do
    match f with
    | .ident _ name =>
      let sig ← c.callee p name
      -- The callee is not typed as an expression, but its type is known from here on.
      Inference.note [0] (.ofSignature (some sig))
      sig.checkCount p name args.length
      inferArgs d c name 1 sig.params args
      return sig.result
    | _ => fail p .indirectCall
  | .group _ e => Inference.noted ((infer d c e).below 0)
  | .index p o i => Inference.noted do
    let object ← (infer d c o).below 0
    let offset ← (infer d c i).below 1
    typeOfElement p i.pos object offset
  | .field p _ name => fail p (.fieldAccess name)
  | .vector p es name => Inference.noted do
    if name != "" then
      -- A written kind fixes the number of elements before any of them is typed.
      let kind ← writtenKind p name es.length
      d.requireKind p kind
      inferElements d c kind.lane 0 es
      return .ofKind kind
    else
      match es with
      | [] => fail p .emptyLiteral
      | e :: rest =>
        -- The first element decides the kind, so it is not compared with the lanes again.
        let elem ← (infer d c e).below 0
        let kind ← inferredKind p elem (rest.length + 1)
        d.requireKind p kind
        inferElements d c kind.lane 1 rest
        return .ofKind kind
  | .lanewise p op l r => Inference.noted do
    let left ← (infer d c l).below 0
    requireVector p (.leftOf op) left
    let right ← (infer d c r).below 1
    requireVector p (.rightOf op) right
    op.typeOf p left right
  | .broadcast p op s v => Inference.noted do
    let scalar ← (infer d c s).below 0
    let vector ← (infer d c v).below 1
    requireVector p .broadcastTarget vector
    op.typeOfBroadcast p scalar vector
  | .reduce p op e => Inference.noted do
    let t ← (infer d c e).below 0
    requireVector p (.reductionOperand op) t
    op.typeOf p t
  | .dot p l r => Inference.noted do
    let left ← (infer d c l).below 0
    requireVector p .leftOfDot left
    let right ← (infer d c r).below 1
    requireVector p .rightOfDot right
    typeOfDot p left right
  | .swizzle p e _ => Inference.noted do
    let t ← (infer d c e).below 0
    requireVector p .swizzleOperand t
    return t
  | .load p e name => Inference.noted do
    let address ← (infer d c e).below 0
    let kind ← loadedKind p name address
    d.requireKind p kind
    return .ofKind kind
  | .store p a e => Inference.noted do
    let address ← (infer d c a).below 0
    -- A bad address is reported before the value is looked at.
    let _ ← pointee .store p address
    let t ← (infer d c e).below 1
    requireVector p .storedValue t
    return .unit
def inferArgs (d : Detector) (c : Context) (name : String) (n : Nat) (params : List Ty) :
    List Expr → Inference Unit
  | [] => return
  | e :: rest => do
    let t ← (infer d c e).below n
    checkArgument name n params e.pos t
    inferArgs d c name (n + 1) params.tail rest
def inferElements (d : Detector) (c : Context) (lane : Ty) (n : Nat) :
    List Expr → Inference Unit
  | [] => return
  | e :: rest => do
    let t ← (infer d c e).below n
    require (lane.compatible t) e.pos (.element (n + 1) lane t)
    inferElements d c lane (n + 1) rest
end

end Expr

end Lanewise
