import Lanewise.Proofs.Recorded.Expr
import Lanewise.Proofs.WellFormed.Program

/-!
# Recorded types of programs

`check_recorded`: behind an accepted program every expression in it has a recorded type, and what is
recorded at a node follows by the rule for its form from what is recorded at its operands. A check
has always recorded all there is below the children it has looked at (`Record.types`).
-/

namespace Lanewise

-- ---------------------------------------------------------------------------
-- Expressions in a program
-- ---------------------------------------------------------------------------

theorem Expr.exprAt?_append (e : Expr) (path rest : Path) :
    e.exprAt? (path ++ rest) = (e.exprAt? path).bind (·.exprAt? rest) := by
  induction path generalizing e with
  | nil => rfl
  | cons n path ih =>
    simp only [List.cons_append, exprAt?]
    cases e.children[n]? with
    | none => rfl
    | some child => exact ih child

/-- An expression and all in it are typed in one context. -/
def Consistent (d : Detector) (e : Expr) (types : Path → Option Ty) : Prop :=
  ∃ c : Context, c.WellFormed ∧ Everywhere (Obeys d c) e.exprAt? types

theorem Everywhere.consistent {e : Expr} (hc : Context.WellFormed c)
    (h : Everywhere (Obeys d c) e.exprAt? types) :
    Everywhere (Consistent d) e.exprAt? types := by
  intro path g hg _
  refine ⟨c, hc, fun rest node hnode habsent => ?_⟩
  have hat : e.exprAt? (path ++ rest) = some node := by
    rw [e.exprAt?_append, hg]
    exact hnode
  simpa only [List.append_assoc] using h (path ++ rest) node hat habsent

theorem Everywhere.absent : Everywhere Q Expr.absent.exprAt? types := by
  intro path e he habsent
  cases path with
  | nil =>
    cases he
    exact (habsent rfl).elim
  | cons n path => cases he

def Record.types (d : Detector) : Record where
  children _ places n log := Covers (Consistent d) places 0 n log
  whole _ places log := Everywhere (Consistent d) places log.typeAt?
  children_nil := .nil
  children_below hlog hinner := hlog.append (.below hinner)
  whole_absent := .absent
  whole_stmt {_ s _} h := h.everywhere rfl fun _ _ => s.exprAt?_eq_none

theorem types_leaves (r : Rules) : (Pairing.wellFormed (.types r.detector)).Leaves r r := by
  refine wellFormed_leaves r fun {e c c' t} hc hempty h => ?_
  have ht : t.WellFormed := (infer_wellFormed hc r e).2 t (by rw [h])
  obtain ⟨hrun, -⟩ := (run_infer_ok hempty).mp h
  exact (infer_recorded hc.context e _ t hrun ht).1.consistent hc.context

theorem program_recorded {p : Program} {c : Checker} (h : p.check o = .ok c) :
    Everywhere (Consistent o.detector) p.exprAt? c.types.typeAt? := by
  have hends := ((Pairing.wellFormed_reflexive (.types o.detector)).body p.statements
    fun _ _ => trivial).run (types_leaves o.rules) ⟨rfl, .fresh o⟩
  rw [Program.check_ok.mp h] at hends
  cases hends with
  | ok _ _ hcovers =>
    refine hcovers.everywhere rfl fun n path hn => ?_
    simp [Program.exprAt?, List.getElem?_eq_none hn]

theorem program_ruled {p : Program} (h : p.check o = .ok c) (he : p.exprAt? path = some e)
    (hne : e ≠ .absent) : ∃ Γ operands t, e.Rule o.detector Γ operands t := by
  obtain ⟨Γ, -, hall⟩ := program_recorded h path e he hne
  obtain ⟨t, operands, -, -, -, -, hrule⟩ := hall [] e rfl hne
  exact ⟨Γ, operands, t, hrule⟩

/-- Behind an accepted program every listed expression has a type. An expression and all nodes in it
are typed in one context: the type recorded at a node is what the rule for its form gives there for
the types recorded at its operands. With names apart the rule gives no other in any context. -/
theorem check_recorded (o : CheckOptions) (p : Program) (c : Checker) (h : p.check o = .ok c) :
    (∀ found ∈ p.exprTypes c, ∃ t, found = some t ∧ t ≠ .absent) ∧
    (∀ path e, p.exprAt? path = some e → e ≠ .absent → ∃ Γ : Context, Γ.WellFormed ∧
      ∀ rest node, e.exprAt? rest = some node → node ≠ .absent →
        ∃ t operands, c.types.typeAt? (path ++ rest) = some t ∧ t ≠ .absent ∧
          operands.length = node.children.length ∧
          (∀ i, i < operands.length →
            c.types.typeAt? (path ++ (rest ++ [i])) = operands[i]?) ∧
          node.Rule o.detector Γ operands t) ∧
    ∀ (e : Expr) Γ Γ' operands t t', e.isIdent = false → e.Rule o.detector Γ operands t →
      e.Rule o.detector Γ' operands t' → t = t' := by
  have hrecorded := program_recorded h
  refine ⟨fun found hfound => ?_, fun path e he hne => ?_,
    fun e _ _ operands t t' he => Expr.Rule.unique he⟩
  · obtain ⟨path, hpath, rfl⟩ := List.mem_map.mp hfound
    obtain ⟨e, he, hne⟩ := Program.mem_paths.mp hpath
    obtain ⟨_, -, hall⟩ := hrecorded path e he hne
    obtain ⟨t, _, ht, habsent, -⟩ := hall [] e rfl hne
    exact ⟨t, by simpa using ht, habsent⟩
  · obtain ⟨Γ, hΓ, hall⟩ := hrecorded path e he hne
    refine ⟨Γ, hΓ, fun rest node hnode habsent => ?_⟩
    simpa only [Obeys, List.append_nil] using hall rest node hnode habsent

/-- A function that adds up two lanes, and a loop that calls it. -/
def loopAndCall : Program where
  name := ""
  statements := [
    .fn ⟨default, "f", [], none⟩ default
      [.expr default (.reduce default .sum
        (.vector default [.float default default, .float default default] ""))],
    .forLoop default (.letDecl default "i" true none (.int default 0))
      (.binary default .lt (.ident default "i") (.int default 2)) .absent
      (.block default [.expr default (.group default (.call default (.ident default "f") []))])]

theorem check_recorded_loopAndCall :
    ∃ c, loopAndCall.check { detector := .baseline .x86_64 } = .ok c ∧
      (loopAndCall.exprTypes c).length = 11 ∧
      ∀ found ∈ loopAndCall.exprTypes c, ∃ t, found = some t ∧ t ≠ .absent := by
  have accepted : (loopAndCall.check { detector := .baseline .x86_64 }).toBool = true := by
    decide +kernel
  cases hc : loopAndCall.check { detector := .baseline .x86_64 } with
  | error e =>
    rw [hc] at accepted
    cases accepted
  | ok c =>
    have count : (loopAndCall.exprTypes c).length = 11 := by
      rw [Program.exprTypes, List.length_map]
      rfl
    exact ⟨c, rfl, count, (check_recorded _ _ c hc).1⟩

end Lanewise
