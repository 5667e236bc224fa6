import Lanewise.Diagnostic
import Lanewise.Lint.Finding
import Lanewise.Target.Advice

/-!
# Lint reports

Findings become warnings and notes. Each use of a kind that the target does not run is a warning.
The advice on a kind is given once, where the program names the kind first. Without a target,
nothing is said about vector kinds.
-/

namespace Lanewise

namespace Finding

def styleMessage? : Finding → Option String
  | .emptyBody name => some ("function '" ++ name ++ "' has an empty body")
  | .naming name => some ("function '" ++ name ++ "' should use snake_case naming")
  | .unusedParam name function =>
    some ("parameter '" ++ name ++ "' in '" ++ function ++ "' is never used")
  | .unusedVariable name => some ("variable '" ++ name ++ "' is declared but never used")
  | .neverReassigned name =>
    some ("variable '" ++ name ++ "' is declared mutable but never reassigned")
  | .kind _ => none

end Finding

namespace Detector

def portability (d : Detector) (pos : Pos) (k : VectorKind) : Diagnostics :=
  if d.isSupported k then []
  else [{
    severity := .warning
    message := "vector type " ++ k.text ++ " is not native on target " ++ d.name
    pos
    hint := d.explain k }]

def notes (d : Detector) (pos : Pos) (k : VectorKind) : Diagnostics :=
  (d.recommendations k).map fun note =>
    { severity := .info, message := k.text ++ ": " ++ note, pos }

end Detector

namespace Findings

/-- The diagnostics of findings for a target, given the kinds already advised on. -/
def report (d : Option Detector) (advised : List VectorKind) : Findings → Diagnostics
  | [] => []
  | (pos, .kind k) :: rest =>
    match d with
    | none => report d advised rest
    | some target =>
      target.portability pos k ++
        if advised.contains k then report d advised rest
        else target.notes pos k ++ report d (k :: advised) rest
  | (pos, finding) :: rest =>
    match finding.styleMessage? with
    | none => report d advised rest
    | some message => { severity := .warning, message, pos } :: report d advised rest

end Findings

def Program.lint (p : Program) (d : Option Detector) : Diagnostics :=
  Findings.report d [] (Stmt.findingsOfAll p.statements)

end Lanewise
