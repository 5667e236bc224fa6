import Lanewise.Pos
import Lanewise.Text.Quoted

/-!
# What can be wrong with a fixture

A fixture is a program written as a YAML document. Each way in which a node can fail to be the
part of a program it has to be is a `Defect`, and a `Flaw` is a defect at a node.
-/

namespace Lanewise.Fixture

inductive Category
  | statement | expression
  deriving DecidableEq, Repr

def Category.text : Category → String
  | .statement => "statement"
  | .expression => "expression"

inductive OperatorClass
  | binary | unary | lanewise | reduction
  deriving DecidableEq, Repr

def OperatorClass.text : OperatorClass → String
  | .binary => "binary operator"
  | .unary => "unary operator"
  | .lanewise => "SIMD operator"
  | .reduction => "reduction"

inductive LiteralClass
  | int | float | bool
  deriving DecidableEq, Repr

inductive Defect
  | notProgram (tag : String)
  | unknownProgramField (name : String)
  | notScalar (tag : String)
  | notBool
  | notMapping (category : Category) (tag : String)
  | duplicateKey (key : String)
  | noForm (category : Category)
  | unknownField (name : String) (category : Category) (form : String)
  | missingField (form field : String)
  | notStatements (tag : String)
  | notParams
  | paramNotMapping
  | unknownParamField (name : String)
  | paramWithoutName
  | loopHead
  | notExpression (tag : String)
  | badLiteral (literal : LiteralClass) (text : String)
  | missingExpression
  | notExpressions (tag : String)
  | unknownOperator (operator : OperatorClass) (spelling : String)
  | dotOperands (count : Nat)
  deriving DecidableEq, Repr

namespace Defect

open Text (quoted)

def message : Defect → String
  | .notProgram tag =>
    "fixture must be a statement list or a program mapping, found " ++ tag
  | .unknownProgramField name => "unknown program field " ++ quoted name
  | .notScalar tag => "expected a scalar, found " ++ tag
  | .notBool => "expected true or false"
  | .notMapping category tag => "expected a " ++ category.text ++ " mapping, found " ++ tag
  | .duplicateKey key => "duplicate key " ++ quoted key
  | .noForm category => category.text ++ " has no recognised form"
  | .unknownField name category form =>
    "unknown field " ++ quoted name ++ " for " ++ category.text ++ " " ++ quoted form
  | .missingField form field => form ++ " requires " ++ quoted field
  | .notStatements tag => "expected a statement list, found " ++ tag
  | .notParams => "params must be a list"
  | .paramNotMapping => "parameter must be a mapping"
  | .unknownParamField name => "unknown parameter field " ++ quoted name
  | .paramWithoutName => "parameter requires a name"
  | .loopHead => "for takes its clauses as sibling fields"
  | .notExpression tag => "expected an expression, found " ++ tag
  | .badLiteral .int text => "integer literal " ++ text ++ " out of range"
  | .badLiteral .float text => "invalid float literal " ++ text
  | .badLiteral .bool text => "invalid bool literal " ++ text
  | .missingExpression => "missing expression"
  | .notExpressions tag => "expected a list of expressions, found " ++ tag
  | .unknownOperator operator spelling => "unknown " ++ operator.text ++ " " ++ quoted spelling
  | .dotOperands count => "dot takes exactly two operands, got " ++ toString count

end Defect

structure Flaw where
  pos : Pos
  defect : Defect
  deriving DecidableEq, Repr

end Lanewise.Fixture
