import Lanewise.Proofs.Complete.Fixture
import Lanewise.Proofs.Printer.Stmt

/-!
# Programs in their outlines

Programs that documents hold are complete, so their print is that of an outline, which it tells. Two
of them have the same print just if they differ in positions alone (`print_eq_iff`).
-/

namespace Lanewise

namespace Program

def unplaced (p : Program) : Program := { p with statements := Stmt.unplacedAll p.statements }

/-- All names, patterns and kinds in the program are tidy, and no literal is not a number. -/
def isTidy (p : Program) : Bool := isTidyName p.name && Stmt.allTidy p.statements

def outline (p : Program) : Outline :=
  .node (Label.text ⟨.program, p.name⟩) (Stmt.outlines p.statements)

theorem print_unplaced (p : Program) : p.unplaced.print = p.print := by
  rw [print, print, unplaced, Stmt.printAll_unplaced]

section
variable {p q : Program}

theorem print_outline (h : p.Complete) (ht : p.isTidy = true) :
    p.outline.print 0 = p.print := by
  rw [isTidy, Bool.and_eq_true] at ht
  have hname : p.name ≠ "" := ne_empty_of_isTidyName ht.1
  have hbelow := Stmt.printAll_outlines 1 fun s hs => Stmt.print_outline (h s hs) 1
  simp [outline, Outline.print, print, Label.text, Word.text, Word.write, hname, hbelow]

theorem isClear_label (ht : p.isTidy = true) : Label.IsClear ⟨.program, p.name⟩ :=
  (Bool.and_eq_true_iff.mp ht).1

theorem isLined_outline (h : p.Complete) (ht : p.isTidy = true) : p.outline.IsLined := by
  have hline := (isClear_label ht).isLine
  rw [isTidy, Bool.and_eq_true, Stmt.allTidy_eq_true] at ht
  exact ⟨hline, Stmt.allLined_outlines fun s hs => Stmt.isLined_outline (h s hs) (ht.2 s hs)⟩

theorem unplaced_eq_of_outline (h : p.Complete) (h' : q.Complete) (ht : p.isTidy = true)
    (ht' : q.isTidy = true) (heq : p.outline = q.outline) : p.unplaced = q.unplaced := by
  obtain ⟨htext, hbelow⟩ := Outline.node.inj heq
  have hlabel := Label.text_injective (isClear_label ht) (isClear_label ht') htext
  have hname : p.name = q.name := eq_of_heq (Label.mk.inj hlabel).2
  rw [isTidy, Bool.and_eq_true, Stmt.allTidy_eq_true] at ht ht'
  have hsame := Stmt.unplacedAll_eq_of_outlines hbelow fun s hs s' hs' =>
    Stmt.unplaced_eq_of_outline (h s hs) (h' s' hs') (ht.2 s hs) (ht'.2 s' hs')
  rw [unplaced, unplaced, hname, hsame]

end

end Program

namespace Fixture

open Yaml (Node)

/-- Programs out of tidy documents have the same print just if they are equal up to positions. -/
theorem print_eq_iff {order order' : KeyOrder} {name name' : String} {document document' : Node}
    {p q : Program} (hp : program order name document = .ok p)
    (hq : program order' name' document' = .ok q) (htidy : p.isTidy = true)
    (htidy' : q.isTidy = true) : p.print = q.print ↔ p.unplaced = q.unplaced := by
  have hcomplete := complete_of_program hp
  have hcomplete' := complete_of_program hq
  constructor
  · intro hprint
    rw [← p.print_outline hcomplete htidy, ← q.print_outline hcomplete' htidy'] at hprint
    have houtline := Outline.print_injective (p.isLined_outline hcomplete htidy)
      (q.isLined_outline hcomplete' htidy') hprint
    exact p.unplaced_eq_of_outline hcomplete hcomplete' htidy htidy' houtline
  · intro hsame
    rw [← p.print_unplaced, ← q.print_unplaced, hsame]

/-- A loop on a line of its own, over a variable that is named like the mark of a mutable one, with
a number for its step. -/
def markedLoop (line : Nat) (step : String) : Node :=
  .sequence ⟨1, 1⟩ "!!seq" [.mapping ⟨line, 3⟩ "!!map" [
    (word "for", .scalar ⟨line, 7⟩ "!!null" .plain ""),
    (word "init", .mapping ⟨line, 11⟩ "!!map" [(word "let", word "mut")]),
    (word "step", .scalar ⟨line, 9⟩ "!!float" .plain step)]]
where
  word (text : String) : Node := .scalar ⟨line, 3⟩ "!!str" .plain text

/-- The loop on two lines, with its step in two spellings. -/
theorem print_eq_iff_markedLoop : ∃ p q, program .written "p" (markedLoop 1 "0.5") = .ok p ∧
    program .written "p" (markedLoop 7 "5e-1") = .ok q ∧ p.isTidy = true ∧ q.isTidy = true ∧
    p.pos ≠ q.pos ∧ p.print = q.print ∧ p.unplaced = q.unplaced := by
  have facts : ((program .written "p" (markedLoop 1 "0.5")).toOption.any fun p =>
      (program .written "p" (markedLoop 7 "5e-1")).toOption.any fun q =>
        p.isTidy && q.isTidy && p.pos != q.pos && p.print == q.print) = true := by
    decide +kernel
  cases hp : program .written "p" (markedLoop 1 "0.5") with
  | error fault =>
    rw [hp] at facts
    cases facts
  | ok p =>
    cases hq : program .written "p" (markedLoop 7 "5e-1") with
    | error fault =>
      rw [hp, hq] at facts
      cases facts
    | ok q =>
      simp only [hp, hq, Except.toOption, Option.any_some, Bool.and_eq_true, bne_iff_ne,
        beq_iff_eq] at facts
      obtain ⟨⟨⟨htidy, htidy'⟩, hpos⟩, hprint⟩ := facts
      exact ⟨p, q, rfl, rfl, htidy, htidy', hpos, hprint,
        (print_eq_iff hp hq htidy htidy').mp hprint⟩

end Fixture

end Lanewise
