import Lanewise.Operator
import Lanewise.Pos
import Lanewise.Ty.Basic

/-!
# Type errors

Each rule of the type system that a program can break is a `Fault` with the types that broke it.
Checking stops at the first one.
-/

namespace Lanewise

inductive ErrorKind
  | mismatch | unknownIdentifier | argumentCount | nonBoolCondition | unsupported | unknownType
  | missingType | invalidOperand
  | elementCount | unsupportedKind | laneOperator | widthMismatch | address
  | other (code : Int)
  deriving DecidableEq, Repr, Inhabited

namespace ErrorKind

def all : List ErrorKind := [
  mismatch, unknownIdentifier, argumentCount, nonBoolCondition, unsupported, unknownType,
  missingType, invalidOperand, elementCount, unsupportedKind, laneOperator, widthMismatch, address]

def ofCode (code : Int) : ErrorKind :=
  if 0 ≤ code then all.getD code.toNat (.other code) else .other code

def text : ErrorKind → String
  | .mismatch => "type mismatch"
  | .unknownIdentifier => "unknown identifier"
  | .argumentCount => "argument count"
  | .nonBoolCondition => "non-bool condition"
  | .unsupported => "unsupported"
  | .unknownType => "unknown type"
  | .missingType => "missing type"
  | .invalidOperand => "invalid operand"
  | .elementCount => "simd element count"
  | .unsupportedKind => "simd unsupported kind"
  | .laneOperator => "simd operator"
  | .widthMismatch => "simd width mismatch"
  | .address => "simd address"
  | .other _ => "unknown"

def isVectorRule : ErrorKind → Bool
  | .elementCount | .unsupportedKind | .laneOperator | .widthMismatch | .address => true
  | _ => false

end ErrorKind

inductive OperandClass
  | numeric | comparable | boolean
  deriving DecidableEq, Repr

def OperandClass.text : OperandClass → String
  | .numeric => "numeric"
  | .comparable => "comparable"
  | .boolean => "boolean"

inductive VectorPlace
  | leftOf (op : LaneOp)
  | rightOf (op : LaneOp)
  | broadcastTarget
  | reductionOperand (op : ReduceOp)
  | leftOfDot
  | rightOfDot
  | swizzleOperand
  | storedValue
  deriving DecidableEq, Repr

def VectorPlace.text : VectorPlace → String
  | .leftOf op => "left operand of '" ++ op.text ++ "'"
  | .rightOf op => "right operand of '" ++ op.text ++ "'"
  | .broadcastTarget => "broadcast target"
  | .reductionOperand op => "operand of reduction '" ++ op.text ++ "'"
  | .leftOfDot => "left operand of dot"
  | .rightOfDot => "right operand of dot"
  | .swizzleOperand => "swizzle operand"
  | .storedValue => "stored value"

inductive Access
  | load | store
  deriving DecidableEq, Repr

def Access.text : Access → String
  | .load => "load"
  | .store => "store"

inductive Conditional
  | ifElse | whileLoop | forLoop
  deriving DecidableEq, Repr

def Conditional.text : Conditional → String
  | .ifElse => "if"
  | .whileLoop => "while"
  | .forLoop => "for"

inductive Fault
  | missingExpression
  | undefinedVariable (name : String)
  | undefinedFunction (name : String)
  | calledVariable (name : String)
  | indirectCall
  | tooFewArguments (name : String) (least got : Nat)
  | argumentCount (name : String) (expected got : Nat)
  | argument (number : Nat) (name : String) (expected got : Ty)
  | operands (op : BinaryOp) (required : OperandClass) (left right : Ty)
  | undefinedFor (op : BinaryOp) (left right : Ty)
  | assignment (target value : Ty)
  | unknownBinary
  | negated (operand : Ty)
  | inverted (operand : Ty)
  | unknownUnary
  | indexNotInteger (index : Ty)
  | notIndexable (object : Ty)
  | fieldAccess (name : String)
  | unknownVectorKind (name : String)
  | unsupportedKind (kind : VectorKind) (target reason : String)
  | elementCount (kind : VectorKind) (got : Nat)
  | emptyLiteral
  | noKindFor (count : Nat) (elem : Ty)
  | element (number : Nat) (lane got : Ty)
  | notVector (place : VectorPlace) (got : Ty)
  | maskArithmetic (op : LaneOp) (kind : VectorKind)
  | integerDivision (op : LaneOp) (kind : VectorKind)
  | floatBitwise (op : LaneOp) (kind : VectorKind)
  | lanewiseWidths (op : LaneOp) (left right : Ty)
  | lanewiseElements (op : LaneOp) (left right : Ty)
  | broadcastVector (scalar : Ty)
  | broadcastElement (scalar vector : Ty)
  | floatReduction (op : ReduceOp) (vector : Ty)
  | dotWidths (left right : Ty)
  | dotKinds (left right : Ty)
  | notReference (access : Access) (address : Ty)
  | loadKind (address : Ty)
  | emptyType
  /-- `name` is what is left of the written type `written` once references and arrays are
  stripped. -/
  | unknownType (name written : String)
  | untypedParam (param function : String)
  | untypedVariable (name : String)
  | initializer (name : String) (declared value : Ty)
  | returnOutside
  | returned (expected got : Ty)
  | condition (statement : Conditional) (got : Ty)
  deriving DecidableEq, Repr

namespace Fault

def kind : Fault → ErrorKind
  | .missingExpression | .calledVariable _ | .indirectCall | .unknownBinary | .unknownUnary
  | .fieldAccess _ | .returnOutside => .unsupported
  | .undefinedVariable _ | .undefinedFunction _ => .unknownIdentifier
  | .tooFewArguments .. | .argumentCount .. => .argumentCount
  | .argument .. | .undefinedFor .. | .assignment .. | .element .. | .lanewiseElements ..
  | .broadcastElement .. | .dotKinds .. | .initializer .. | .returned .. => .mismatch
  | .operands .. | .negated _ | .inverted _ | .indexNotInteger _ | .notIndexable _
  | .notVector .. | .broadcastVector _ => .invalidOperand
  | .unknownVectorKind _ | .emptyType | .unknownType .. => .unknownType
  | .unsupportedKind .. => .unsupportedKind
  | .elementCount .. | .emptyLiteral | .noKindFor .. => .elementCount
  | .maskArithmetic .. | .integerDivision .. | .floatBitwise .. | .floatReduction .. =>
    .laneOperator
  | .lanewiseWidths .. | .dotWidths .. => .widthMismatch
  | .notReference .. => .address
  | .loadKind _ | .untypedParam .. | .untypedVariable _ => .missingType
  | .condition .. => .nonBoolCondition

def message : Fault → String
  | .missingExpression => "missing expression"
  | .undefinedVariable name => "undefined variable '" ++ name ++ "'"
  | .undefinedFunction name => "undefined function '" ++ name ++ "'"
  | .calledVariable name => "calling '" ++ name ++ "' through a variable is not supported"
  | .indirectCall => "indirect calls are not supported"
  | .tooFewArguments name least got =>
    name ++ "() expects at least " ++ toString least ++ " arguments, got " ++ toString got
  | .argumentCount name expected got =>
    name ++ "() expects " ++ toString expected ++ " arguments, got " ++ toString got
  | .argument number name expected got =>
    "argument " ++ toString number ++ " of " ++ name ++ "(): expected " ++ expected.text ++
      ", got " ++ got.text
  | .operands op required left right =>
    "operator '" ++ op.text ++ "' requires " ++ required.text ++ " operands, got " ++ left.text ++
      " and " ++ right.text
  | .undefinedFor op left right =>
    "operator '" ++ op.text ++ "' not defined for " ++ left.text ++ " and " ++ right.text
  | .assignment target value => "cannot assign " ++ value.text ++ " to " ++ target.text
  | .unknownBinary => "unknown binary operator"
  | .negated operand => "unary '-' not defined for " ++ operand.text
  | .inverted operand => "unary '!' requires boolean operand, got " ++ operand.text
  | .unknownUnary => "unknown unary operator"
  | .indexNotInteger index => "array index must be an integer, got " ++ index.text
  | .notIndexable object => "cannot index into non-array type " ++ object.text
  | .fieldAccess name => "field access '." ++ name ++ "' is not supported"
  | .unknownVectorKind name => "unknown vector type '" ++ name ++ "'"
  | .unsupportedKind kind target reason =>
    "vector type " ++ kind.text ++ " is not supported on target " ++ target ++ ": " ++ reason
  | .elementCount kind got =>
    "vector literal of type " ++ kind.text ++ " requires " ++ toString kind.width ++
      " elements, got " ++ toString got
  | .emptyLiteral => "cannot infer the type of an empty vector literal"
  | .noKindFor count elem =>
    "no vector type has " ++ toString count ++ " lanes of " ++ elem.text
  | .element number lane got =>
    "vector element " ++ toString number ++ ": expected " ++ lane.text ++ ", got " ++ got.text
  | .notVector place got => place.text ++ " must be a SIMD vector, got " ++ got.text
  | .maskArithmetic op kind =>
    "operator '" ++ op.text ++ "' is not defined for mask type " ++ kind.text
  | .integerDivision op kind =>
    "operator '" ++ op.text ++ "' requires floating-point lanes, got " ++ kind.text
  | .floatBitwise op kind =>
    "operator '" ++ op.text ++ "' is not defined for floating-point type " ++ kind.text
  | .lanewiseWidths op left right =>
    "operator '" ++ op.text ++ "' on vectors of different widths: " ++ left.text ++ " has " ++
      toString left.width ++ " lanes, " ++ right.text ++ " has " ++ toString right.width
  | .lanewiseElements op left right =>
    "operator '" ++ op.text ++ "' on vectors of different element types: " ++ left.text ++
      " and " ++ right.text
  | .broadcastVector scalar => "broadcast operand must be a scalar, got " ++ scalar.text
  | .broadcastElement scalar vector =>
    "cannot broadcast " ++ scalar.text ++ " across " ++ vector.lane.text ++ " lanes of " ++
      vector.text
  | .floatReduction op vector =>
    "reduction '" ++ op.text ++ "' is not defined for floating-point type " ++ vector.text
  | .dotWidths left right =>
    "dot of vectors with different widths: " ++ left.text ++ " and " ++ right.text
  | .dotKinds left right =>
    "dot requires identical vector types, got " ++ left.text ++ " and " ++ right.text
  | .notReference access address =>
    "vector " ++ access.text ++ " address must be a reference, got " ++ address.text
  | .loadKind address => "vector load from " ++ address.text ++ " needs a vector type"
  | .emptyType => "empty type annotation"
  | .unknownType name written =>
    if name == written then "unknown type '" ++ name ++ "'"
    else "unknown type '" ++ name ++ "' in '" ++ written ++ "'"
  | .untypedParam param function =>
    "parameter '" ++ param ++ "' of '" ++ function ++ "' needs a type annotation"
  | .untypedVariable name =>
    "variable '" ++ name ++ "' needs a type annotation or an initializer"
  | .initializer name declared value =>
    "cannot assign " ++ value.text ++ " to variable '" ++ name ++ "' of type " ++ declared.text
  | .returnOutside => "return statement outside of a function"
  | .returned expected got =>
    "return type mismatch: expected " ++ expected.text ++ ", got " ++ got.text
  | .condition statement got =>
    statement.text ++ " condition must be bool, got " ++ got.text

end Fault

structure TypeError where
  pos : Pos
  fault : Fault
  deriving DecidableEq, Repr

end Lanewise
