import Lanewise.Check.WrittenType
import Lanewise.Lint.Names
import Lanewise.Text.LetterClass

/-!
# Findings

What there is to say about a program that is in order. Most findings are about style and do not
depend on a target; the others are the places where a program names a vector kind, which a target
may or may not run. Findings come in the order in which the program is visited.
-/

namespace Lanewise

namespace WrittenType

/-- What is left of a trimmed text once references and arrays are stripped. -/
def coreText (cs : List Char) : List Char :=
  match h : layer cs with
  | .reference inner =>
    have := length_reference h
    coreText (Text.trimBlanks inner)
  | .array inner =>
    have := length_array h
    coreText (Text.trimBlanks inner)
  | .leaf => cs
termination_by cs.length
decreasing_by all_goals exact Nat.lt_of_le_of_lt (Text.length_trimBlanks_le inner) this

def core (a : WrittenType) : String := String.ofList (coreText (Text.trimBlanks a.name.toList))

end WrittenType

inductive Finding
  | emptyBody (name : String)
  | naming (name : String)
  | unusedParam (name function : String)
  | unusedVariable (name : String)
  | neverReassigned (name : String)
  | kind (k : VectorKind)
  deriving DecidableEq, Repr

abbrev Findings := List (Pos × Finding)

/-- Small letters, digits and underscores, the first of which is no digit. -/
def isSnakeCase (name : String) : Bool :=
  match name.toList with
  | [] => false
  | c :: cs =>
    !Text.isDecimalDigit c &&
      (c :: cs).all fun c => Text.isSmallLetter c || c == '_' || Text.isDecimalDigit c

/-- Names that start with an underscore are meant to be unused. -/
def isIgnored (name : String) : Bool := name.toList.head? == some '_'

namespace Findings

def ofKindName (pos : Pos) (name : String) : Findings :=
  match VectorKind.ofName? name with
  | some k => [(pos, .kind k)]
  | none => []

def ofWritten : Option WrittenType → Findings
  | none => []
  | some a => ofKindName a.pos a.core

def ofHead (head : FnHead) (isEmpty : Bool) : Findings :=
  (if isEmpty then [(head.pos, .emptyBody head.name)] else []) ++
  (if isSnakeCase head.name then [] else [(head.pos, .naming head.name)]) ++
  head.params.flatMap (fun p => ofWritten p.written) ++
  ofWritten head.returns

def unusedParams (head : FnHead) (body : List Stmt) : Findings :=
  let read := Stmt.readsOfAll body
  (head.params.filter fun p => !isIgnored p.name && !read.contains p.name).map fun p =>
    (p.pos, .unusedParam p.name head.name)

def unusedVariables (body : List Stmt) : Findings :=
  let read := Stmt.readsOfAll body
  ((Stmt.declaresOfAll body).filter fun v => !isIgnored v.name && !read.contains v.name).map
    fun v => (v.pos, .unusedVariable v.name)

def neverReassigned (body : List Stmt) : Findings :=
  let written := Stmt.writesOfAll body
  ((Stmt.declaresOfAll body).filter fun v => v.isMut && !written.contains v.name).map
    fun v => (v.pos, .neverReassigned v.name)

def ofBody (head : FnHead) (body : List Stmt) : Findings :=
  unusedParams head body ++ unusedVariables body ++ neverReassigned body

end Findings

namespace Expr

mutual
/-- The vector kinds that an expression names. The callee of a call is not searched. -/
def findings : Expr → Findings
  | .absent | .int .. | .float .. | .bool .. | .string .. | .ident .. => []
  | .binary _ _ l r | .lanewise _ _ l r | .broadcast _ _ l r | .dot _ l r | .store _ l r
  | .index _ l r => l.findings ++ r.findings
  | .unary _ _ e | .group _ e | .field _ e _ | .reduce _ _ e | .swizzle _ e _ => e.findings
  | .call _ _ args => findingsOfAll args
  | .vector pos es kind => Findings.ofKindName pos kind ++ findingsOfAll es
  | .load pos e kind => Findings.ofKindName pos kind ++ e.findings
def findingsOfAll : List Expr → Findings
  | [] => []
  | e :: es => e.findings ++ findingsOfAll es
end

end Expr

namespace Stmt

mutual
def findings : Stmt → Findings
  | .absent => []
  | .fn head _ body =>
    Findings.ofHead head body.isEmpty ++ Findings.ofBody head body ++ findingsOfAll body
  | .prototype head => Findings.ofHead head true
  | .letDecl _ _ _ written value => Findings.ofWritten written ++ value.findings
  | .ret _ value | .expr _ value => value.findings
  | .block _ body => findingsOfAll body
  | .ifElse _ condition yes no => condition.findings ++ yes.findings ++ no.findings
  | .whileLoop _ condition body => condition.findings ++ body.findings
  | .forLoop _ init condition step body =>
    init.findings ++ condition.findings ++ step.findings ++ body.findings
def findingsOfAll : List Stmt → Findings
  | [] => []
  | s :: rest => s.findings ++ findingsOfAll rest
end

end Stmt

end Lanewise
