import Lanewise.Proofs.Lint.Style

/-!
# Findings about the bodies of functions

The findings about names that are not used or not changed come from the functions of a program, at
any depth, each of which is looked at once and on its own (`Stmt.ofBodies_findings`).
-/

namespace Lanewise

namespace Stmt

mutual
/-- The functions with a body that a statement declares, a function before those inside it. -/
def functions : Stmt → List (FnHead × List Stmt)
  | .fn head _ body => (head, body) :: functionsIn body
  | .block _ body => functionsIn body
  | .ifElse _ _ yes no => yes.functions ++ no.functions
  | .whileLoop _ _ body => body.functions
  | .forLoop _ init _ _ body => init.functions ++ body.functions
  | .absent | .prototype _ | .letDecl .. | .ret .. | .expr .. => []
def functionsIn : List Stmt → List (FnHead × List Stmt)
  | [] => []
  | s :: rest => s.functions ++ functionsIn rest
end

end Stmt

def Program.functions (p : Program) : List (FnHead × List Stmt) := Stmt.functionsIn p.statements

def Finding.isOfBody : Finding → Bool
  | .unusedParam .. | .unusedVariable _ | .neverReassigned _ => true
  | .emptyBody _ | .naming _ | .kind _ => false

namespace Findings

def ofBodies (findings : Findings) : Findings := findings.filter (·.2.isOfBody)

theorem ofBodies_append (fs gs : Findings) : ofBodies (fs ++ gs) = fs.ofBodies ++ gs.ofBodies :=
  List.filter_append ..

theorem ofBodies_ofKindName (pos : Pos) (name : String) : (ofKindName pos name).ofBodies = [] := by
  unfold ofKindName
  split <;> rfl

theorem ofBodies_ofWritten (written : Option WrittenType) : (ofWritten written).ofBodies = [] := by
  cases written with
  | none => rfl
  | some a => rw [ofWritten, ofBodies_ofKindName]

theorem ofBodies_ofHead (head : FnHead) (isEmpty : Bool) : (ofHead head isEmpty).ofBodies = [] := by
  have style : ofBodies ((if isEmpty then [(head.pos, .emptyBody head.name)] else []) ++
      if isSnakeCase head.name then [] else [(head.pos, .naming head.name)]) = [] := by
    split <;> split <;> rfl
  have params : ofBodies (head.params.flatMap fun p => ofWritten p.written) = [] := by
    induction head.params with
    | nil => rfl
    | cons p rest ih =>
      rw [List.flatMap_cons, ofBodies_append, ofBodies_ofWritten, ih, List.nil_append]
  rw [ofHead, ofBodies_append, ofBodies_append, style, params, ofBodies_ofWritten]
  rfl

theorem ofBodies_ofBody (head : FnHead) (body : List Stmt) :
    (ofBody head body).ofBodies = ofBody head body := by
  rw [ofBodies, List.filter_eq_self]
  intro found h
  simp only [ofBody, unusedParams, unusedVariables, neverReassigned, List.mem_append,
    List.mem_map] at h
  rcases h with (⟨p, -, rfl⟩ | ⟨v, -, rfl⟩) | ⟨v, -, rfl⟩ <;> rfl

end Findings

open Findings

namespace Expr

mutual
theorem ofBodies_findings : (e : Expr) → e.findings.ofBodies = []
  | .absent | .int .. | .float .. | .bool .. | .string .. | .ident .. => rfl
  | .binary _ _ l r | .lanewise _ _ l r | .broadcast _ _ l r | .dot _ l r | .store _ l r
  | .index _ l r => by
    rw [findings, ofBodies_append, ofBodies_findings l, ofBodies_findings r, List.nil_append]
  | .unary _ _ e | .group _ e | .field _ e _ | .reduce _ _ e | .swizzle _ e _ => by
    rw [findings, ofBodies_findings e]
  | .call _ _ args => by rw [findings, ofBodies_findingsOfAll args]
  | .vector _ es _ => by
    rw [findings, ofBodies_append, ofBodies_ofKindName, ofBodies_findingsOfAll es, List.nil_append]
  | .load _ e _ => by
    rw [findings, ofBodies_append, ofBodies_ofKindName, ofBodies_findings e, List.nil_append]
theorem ofBodies_findingsOfAll : (es : List Expr) → ofBodies (findingsOfAll es) = []
  | [] => rfl
  | e :: es => by
    rw [findingsOfAll, ofBodies_append, ofBodies_findings e, ofBodies_findingsOfAll es,
      List.nil_append]
end

end Expr

namespace Stmt

mutual
/-- Each function of a statement is looked at once. -/
theorem ofBodies_findings : (s : Stmt) →
    s.findings.ofBodies = s.functions.flatMap fun f => ofBody f.1 f.2
  | .absent => rfl
  | .fn head _ body => by
    rw [findings, ofBodies_append, ofBodies_append, ofBodies_ofHead, ofBodies_ofBody,
      ofBodies_findingsOfAll body, functions, List.flatMap_cons, List.nil_append]
  | .prototype head => by rw [findings, ofBodies_ofHead, functions, List.flatMap_nil]
  | .letDecl _ _ _ written value => by
    rw [findings, ofBodies_append, ofBodies_ofWritten, value.ofBodies_findings, functions,
      List.flatMap_nil, List.nil_append]
  | .ret _ value | .expr _ value => by
    rw [findings, value.ofBodies_findings, functions, List.flatMap_nil]
  | .block _ body => by rw [findings, ofBodies_findingsOfAll body, functions]
  | .ifElse _ condition yes no => by
    rw [findings, ofBodies_append, ofBodies_append, condition.ofBodies_findings,
      ofBodies_findings yes, ofBodies_findings no, functions, List.flatMap_append, List.nil_append]
  | .whileLoop _ condition body => by
    rw [findings, ofBodies_append, condition.ofBodies_findings, ofBodies_findings body, functions,
      List.nil_append]
  | .forLoop _ init condition step body => by
    rw [findings, ofBodies_append, ofBodies_append, ofBodies_append, ofBodies_findings init,
      condition.ofBodies_findings, step.ofBodies_findings, ofBodies_findings body, functions,
      List.flatMap_append, List.append_nil, List.append_nil]
theorem ofBodies_findingsOfAll : (body : List Stmt) →
    ofBodies (findingsOfAll body) = (functionsIn body).flatMap fun f => ofBody f.1 f.2
  | [] => rfl
  | s :: rest => by
    rw [findingsOfAll, ofBodies_append, ofBodies_findings s, ofBodies_findingsOfAll rest,
      functionsIn, List.flatMap_append]
end

end Stmt

theorem Program.mem_findings {p : Program} {pos : Pos} {f : Finding} (hf : f.isOfBody = true) :
    (pos, f) ∈ Stmt.findingsOfAll p.statements ↔
      ∃ fn ∈ p.functions, (pos, f) ∈ ofBody fn.1 fn.2 := by
  rw [Program.functions, ← List.mem_flatMap, ← Stmt.ofBodies_findingsOfAll, ofBodies,
    List.mem_filter, and_iff_left hf]

/-- A warning that comes without a hint is about a finding, whatever the target. -/
theorem Program.mem_lint {p : Program} {d : Option Detector} (hw : w.isStyle = true) :
    w ∈ p.lint d ↔ ∃ found ∈ Stmt.findingsOfAll p.statements, Finding.warning? found = some w := by
  rw [← List.mem_filterMap]
  cases d with
  | none => rw [lint, report_none]
  | some d => rw [lint, ← filter_isStyle_report (d := d) [], List.mem_filter, and_iff_left hw]

end Lanewise
