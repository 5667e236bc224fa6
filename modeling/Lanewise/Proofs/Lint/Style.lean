import Lanewise.Proofs.Summary.Verdict
import Lanewise.Proofs.Target.Missing

/-!
# Style, targets and verdicts

`lint_noninterference`: whether a unit is linted changes nothing about its verdict, and which
target it is linted for changes nothing about matters of style. A report for a target is the report
without one with further diagnostics between, each of which shows by its severity or its hint that
it is about the target (`report_foreign`).
-/

namespace Lanewise

-- ---------------------------------------------------------------------------
-- Hints
-- ---------------------------------------------------------------------------

namespace Detector

variable {d : Detector} {k : VectorKind}

theorem mem_portability :
    w ∈ d.portability pos k ↔ d.isSupported k = false ∧ w = {
      severity := .warning
      message := "vector type " ++ k.text ++ " is not native on target " ++ d.name
      pos
      hint := d.explain k } := by
  unfold portability
  split
  case isTrue h => simp [h]
  case isFalse h => simp [h]

theorem severity_of_mem_notes (h : w ∈ d.notes pos k) : w.severity = .info := by
  obtain ⟨note, -, rfl⟩ := List.mem_map.mp h
  rfl

end Detector

-- ---------------------------------------------------------------------------
-- Style in a report
-- ---------------------------------------------------------------------------

/-- The diagnostic is a warning that comes without a hint. -/
def Diagnostic.isStyle (w : Diagnostic) : Bool := w.severity == .warning && w.hint == ""

def Finding.warning? (found : Pos × Finding) : Option Diagnostic :=
  found.2.styleMessage?.map fun message => { severity := .warning, message, pos := found.1 }

namespace Findings

variable {d : Detector}

theorem report_none (advised : List VectorKind) (findings : Findings) :
    report none advised findings = findings.filterMap Finding.warning? := by
  induction findings with
  | nil => rfl
  | cons found rest ih =>
    obtain ⟨pos, f⟩ := found
    cases f with
    | kind k => exact ih.trans (List.filterMap_cons_none rfl).symm
    | _ => exact congrArg (List.cons _) ih

theorem filter_isStyle_portability (pos : Pos) (k : VectorKind) :
    (d.portability pos k).filter (·.isStyle) = [] := by
  rw [List.filter_eq_nil_iff]
  intro w hw
  obtain ⟨hk, rfl⟩ := Detector.mem_portability.mp hw
  simp [Diagnostic.isStyle, Detector.explain_eq_empty, hk]

theorem filter_isStyle_notes (pos : Pos) (k : VectorKind) :
    (d.notes pos k).filter (·.isStyle) = [] := by
  rw [List.filter_eq_nil_iff]
  intro w hw
  simp [Diagnostic.isStyle, Detector.severity_of_mem_notes hw]

theorem filter_isStyle_report (advised : List VectorKind) (findings : Findings) :
    (report (some d) advised findings).filter (·.isStyle) =
      findings.filterMap Finding.warning? := by
  induction findings generalizing advised with
  | nil => rfl
  | cons found rest ih =>
    obtain ⟨pos, f⟩ := found
    cases f with
    | kind k =>
      rw [report, List.filter_append, filter_isStyle_portability, List.nil_append]
      split
      · exact ih advised
      · rw [List.filter_append, filter_isStyle_notes, List.nil_append]
        exact ih (k :: advised)
    | _ => exact congrArg (List.cons _) (ih advised)

/-- What a report adds for a target: notes, and warnings about kinds that it does not run. -/
theorem report_foreign {findings : Findings} {advised : List VectorKind}
    (h : w ∈ report (some d) advised findings) (hw : w.isStyle = false) :
    ∃ pos k, w ∈ d.portability pos k ∨ w ∈ d.notes pos k := by
  induction findings generalizing advised with
  | nil => cases h
  | cons found rest ih =>
    obtain ⟨pos, f⟩ := found
    cases f with
    | kind k =>
      rw [report, List.mem_append] at h
      rcases h with h | h
      · exact ⟨pos, k, .inl h⟩
      split at h
      · exact ih h
      rcases List.mem_append.mp h with h | h
      · exact ⟨pos, k, .inr h⟩
      · exact ih h
    | _ =>
      rcases List.mem_cons.mp h with rfl | h
      · cases hw
      · exact ih h

end Findings

theorem Verdict.isOk_eq (v : Verdict) :
    v.isOk = (v.checked.isSome && v.diagnostics.errors.isEmpty) := by
  rw [isOk, Diagnostics.hasErrors, Diagnostics.errorCount_eq]
  cases v.diagnostics.errors <;> rfl

theorem Program.errors_lint (p : Program) (path : String) (d : Option Detector) :
    (Diagnostics.merge [] path (p.lint d)).errors = [] := by
  rw [Diagnostics.merge, List.nil_append, Diagnostics.errors, List.filter_map, List.map_eq_nil_iff,
    List.filter_eq_nil_iff]
  intro w hw
  simpa using (Findings.report_mild hw).1

/-- Linting leaves the verdict on a program, what its check gives and its errors as they are. Of a
report for a target, the warnings without a hint are the report without a target, and all else is a
note or a warning whose hint explains why the target does not run a kind. -/
theorem lint_noninterference :
    (∀ (path : String) (p : Program) (o : RunOptions),
      let linted := Verdict.ofProgram path p { o with lints := true }
      let plain := Verdict.ofProgram path p { o with lints := false }
      linted.isOk = plain.isOk ∧ linted.checked = plain.checked ∧
        linted.diagnostics.errors = plain.diagnostics.errors) ∧
    ∀ (p : Program) (d : Detector),
      (p.lint (some d)).filter (·.isStyle) = p.lint none ∧
      ∀ w ∈ p.lint (some d), w.isStyle = false →
        w.severity = .info ∨
        ∃ k, d.isSupported k = false ∧ w.severity = .warning ∧ w.hint = d.explain k ∧
          w.hint ≠ "" := by
  constructor
  · intro path p o linted plain
    have same : linted.checked = plain.checked ∧
        linted.diagnostics.errors = plain.diagnostics.errors := by
      simp only [linted, plain, Verdict.ofProgram]
      rcases p.run o.toCheckOptions with ⟨e | _, c⟩
      · exact ⟨rfl, rfl⟩
      · exact ⟨rfl, p.errors_lint path (some o.detector)⟩
    refine ⟨?_, same⟩
    rw [linted.isOk_eq, plain.isOk_eq, same.1, same.2]
  · intro p d
    refine ⟨?_, fun w hw hforeign => ?_⟩
    · rw [Program.lint, Findings.filter_isStyle_report, Program.lint, Findings.report_none]
    · obtain ⟨pos, k, h | h⟩ := Findings.report_foreign hw hforeign
      · obtain ⟨hk, rfl⟩ := Detector.mem_portability.mp h
        refine .inr ⟨k, hk, rfl, rfl, ?_⟩
        simp [Detector.explain_eq_empty, hk]
      · exact .inl (Detector.severity_of_mem_notes h)

end Lanewise
