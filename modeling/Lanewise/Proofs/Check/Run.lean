import Lanewise.Check.Program

/-!
# Running checks

What the steps of a check do to a checker, and when they end well. Sequencing is opened by
`run_bind` or, where only the good end counts, by `bind_ok`.
-/

namespace Lanewise

def CheckM.run (m : CheckM α) (c : Checker) : Except TypeError α × Checker := m c

namespace CheckM

section
variable {m : CheckM α} {f : α → CheckM β} {c c' : Checker}

@[simp] theorem run_pure (a : α) (c : Checker) : (pure a : CheckM α).run c = (.ok a, c) := rfl

@[simp] theorem run_fail (c : Checker) :
    (fail pos fault : CheckM α).run c = (.error ⟨pos, fault⟩, c) := rfl

theorem run_bind (m : CheckM α) (f : α → CheckM β) (c : Checker) :
    (m >>= f).run c = match m.run c with
      | (.ok a, after) => (f a).run after
      | (.error e, after) => (.error e, after) := by
  change ExceptT.bindCont f (m c).1 (m c).2 = _
  unfold CheckM.run
  rcases m c with ⟨_ | _, _⟩ <;> rfl

@[simp] theorem run_context (c : Checker) : context.run c = (.ok c.context, c) := rfl

@[simp] theorem run_changeContext (c : Checker) (change : Context → Context) :
    (changeContext change).run c = (.ok (), { c with context := change c.context }) := rfl

@[simp] theorem run_noteFunction (c : Checker) :
    (noteFunction name sig).run c =
      (.ok (), { c with declared := c.declared ++ [(name, sig)] }) := rfl

@[simp] theorem run_ofInference (m : Inference α) (c : Checker) :
    (ofInference m).run c = (m.result, { c with types := c.types ++ m.types }) := by
  unfold ofInference
  rw [run_bind]
  cases h : m.result <;> rfl

theorem run_below (m : CheckM α) (n : Nat) (c : Checker) :
    (below n m).run c = ((m.run { c with types := [] }).1,
      { (m.run { c with types := [] }).2 with
        types := c.types ++ (m.run { c with types := [] }).2.types.below n }) := rfl

theorem run_inScope (m : CheckM α) (opening : Context → Context) (c : Checker) :
    (inScope opening m).run c = ((m.run { c with context := opening c.context }).1,
      { (m.run { c with context := opening c.context }).2 with
        context := (m.run { c with context := opening c.context }).2.context.pop }) := rfl

theorem run_atomically (m : CheckM α) (c : Checker) :
    (atomically m).run c = match m.run c with
      | (.ok a, after) => (.ok a, after)
      | (.error e, after) =>
        (.error e, { after with context := after.context.rollback c.context.mark }) := rfl

theorem bind_ok :
    (m >>= f).run c = (.ok b, c') ↔
      ∃ a next, m.run c = (.ok a, next) ∧ (f a).run next = (.ok b, c') := by
  rw [run_bind]
  obtain ⟨result, next⟩ := m.run c
  cases result <;> simp [and_assoc]

theorem below_ok :
    (below n m).run c = (.ok a, c') ↔ ∃ after, m.run { c with types := [] } = (.ok a, after) ∧
      c' = { after with types := c.types ++ after.types.below n } := by
  rw [run_below]
  obtain ⟨result, after⟩ := m.run { c with types := [] }
  constructor
  · rintro ⟨⟩
    exact ⟨after, rfl, rfl⟩
  · rintro ⟨_, ⟨⟩, rfl⟩
    rfl

theorem inScope_ok :
    (inScope opening m).run c = (.ok a, c') ↔
      ∃ after, m.run { c with context := opening c.context } = (.ok a, after) ∧
        c' = { after with context := after.context.pop } := by
  rw [run_inScope]
  obtain ⟨result, after⟩ := m.run { c with context := opening c.context }
  constructor
  · rintro ⟨⟩
    exact ⟨after, rfl, rfl⟩
  · rintro ⟨_, ⟨⟩, rfl⟩
    rfl

theorem atomically_ok : (atomically m).run c = (.ok a, c') ↔ m.run c = (.ok a, c') := by
  rw [run_atomically]
  obtain ⟨result, after⟩ := m.run c
  cases result <;> simp

end

end CheckM

namespace Rules

open CheckM

@[simp] theorem run_infer (r : Rules) (e : Expr) (c : Checker) :
    (r.infer e).run c = ((e.infer r.detector c.context).result,
      { c with types := c.types ++ (e.infer r.detector c.context).types }) := by
  simp only [infer, run_bind, run_context, run_ofInference]

def names (r : Rules) (c : Context) : NameRule :=
  { isLenient := r.isLenient, opaqueNames := c.opaqueNames }

@[simp] theorem run_resolve (r : Rules) (a : WrittenType) (c : Checker) :
    (r.resolve a).run c = (a.resolve (r.names c.context), c) := by
  simp only [resolve, run_bind, run_context]
  change _ = (a.resolve { isLenient := r.isLenient, opaqueNames := c.context.opaqueNames }, c)
  cases a.resolve { isLenient := r.isLenient, opaqueNames := c.context.opaqueNames } <;> rfl

end Rules

-- ---------------------------------------------------------------------------
-- Good ends
-- ---------------------------------------------------------------------------

theorem run_infer_ok {r : Rules} {e : Expr} {c c' : Checker} (hc : c.types = []) :
    (r.infer e).run c = (.ok t, c') ↔
      e.infer r.detector c.context = ⟨c'.types, .ok t⟩ ∧ c' = { c with types := c'.types } := by
  rw [Rules.run_infer, hc, List.nil_append]
  generalize e.infer r.detector c.context = m
  obtain ⟨types, result⟩ := m
  constructor
  · rintro ⟨⟩
    exact ⟨rfl, rfl⟩
  · rintro ⟨⟨⟩, h⟩
    rw [h]

theorem Program.check_ok {p : Program} : p.check o = .ok c ↔ p.run o = (.ok (), c) := by
  unfold Program.check
  obtain ⟨result, after⟩ := p.run o
  cases result <;> simp

theorem Program.check_error {p : Program} : p.check o = .error e ↔ (p.run o).1 = .error e := by
  unfold Program.check
  obtain ⟨result, after⟩ := p.run o
  cases result <;> simp

end Lanewise
