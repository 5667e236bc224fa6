import Lanewise.Proofs.Check.Pairing
import Lanewise.Proofs.Renaming.Expr
import Lanewise.Target.Resolve

/-!
# Renaming in programs

`check_rename`: how the variables and functions of a program are called does not matter for its
check, as long as different names stay different and the builtin functions keep theirs. The run of
the renamed program is paired with the run of the program (`Pairing.renaming`).
-/

namespace Lanewise

open CheckM

variable {r : String → String}

-- ---------------------------------------------------------------------------
-- Programs
-- ---------------------------------------------------------------------------

namespace Stmt

mutual
def rename (r : String → String) : Stmt → Stmt
  | .absent => .absent
  | .fn head bodyPos body => .fn (head.rename r) bodyPos (renameAll r body)
  | .prototype head => .prototype (head.rename r)
  | .letDecl p name isMut written value => .letDecl p (r name) isMut written (value.rename r)
  | .ret p value => .ret p (value.rename r)
  | .block p body => .block p (renameAll r body)
  | .ifElse p condition yes no => .ifElse p (condition.rename r) (yes.rename r) (no.rename r)
  | .whileLoop p condition body => .whileLoop p (condition.rename r) (body.rename r)
  | .forLoop p init condition step body =>
    .forLoop p (init.rename r) (condition.rename r) (step.rename r) (body.rename r)
  | .expr p value => .expr p (value.rename r)
def renameAll (r : String → String) : List Stmt → List Stmt
  | [] => []
  | s :: rest => s.rename r :: renameAll r rest
end

theorem renameAll_eq_map (body : List Stmt) : renameAll r body = body.map (rename r) := by
  induction body with
  | nil => rfl
  | cons s rest ih => rw [renameAll, ih, List.map_cons]

theorem exprAt?_renameAll
    (h : ∀ s : Stmt, (s.rename r).exprAt? path = (s.exprAt? path).map (·.rename r))
    (body : List Stmt) (n : Nat) :
    (renameAll r body)[n]?.bind (·.exprAt? path) =
      (body[n]?.bind (·.exprAt? path)).map (·.rename r) := by
  rw [renameAll_eq_map, List.getElem?_map]
  cases body[n]? with
  | none => rfl
  | some s => exact h s

theorem exprAt?_rename (s : Stmt) (path : Path) :
    (s.rename r).exprAt? path = (s.exprAt? path).map (·.rename r) := by
  induction path generalizing s with
  | nil => cases s <;> rfl
  | cons n path ih =>
    cases s with
    | absent => rfl
    | prototype head => rfl
    | fn head bodyPos body => exact exprAt?_renameAll ih body n
    | block p body => exact exprAt?_renameAll ih body n
    | _ =>
      rcases n with _ | _ | _ | _ | n <;> simp [rename, exprAt?, Expr.exprAt?_rename, ih]

end Stmt

def Program.rename (r : String → String) (p : Program) : Program :=
  { p with statements := Stmt.renameAll r p.statements }

theorem Program.exprAt?_rename (p : Program) (path : Path) :
    (p.rename r).exprAt? path = (p.exprAt? path).map (·.rename r) := by
  cases path with
  | nil => rfl
  | cons n path => exact Stmt.exprAt?_renameAll (·.exprAt?_rename path) p.statements n

-- ---------------------------------------------------------------------------
-- Side by side
-- ---------------------------------------------------------------------------

def Checker.rename (r : String → String) (c : Checker) : Checker where
  context := c.context.rename r
  types := c.types
  declared := c.declared.map fun (name, sig) => (r name, sig)

/-- The second run starts from the renamed checker with the renamed program. -/
def Pairing.renaming (r : String → String) : Pairing where
  toRecord := .trivial
  name := r
  expr e e' := e' = e.rename r
  written _ := True
  pos _ := True
  checkers c c' := c' = c.rename r
  type _ := True
  errors e e' := e'.pos = e.pos ∧ e'.fault.kind = e.fault.kind
  inStep := True
  type_unit := trivial
  reset h := by rw [h]; rfl
  join h h' := by rw [h, h']; rfl
  push h := by rw [h, Checker.rename, Context.push_rename]; rfl
  enter _ h := by rw [h, Checker.rename, Context.enter_rename]; rfl
  pop h := by rw [h, Checker.rename, Context.pop_rename]; rfl
  rollback h h' := by
    rw [h, h', Checker.rename, Checker.rename, Context.rollback_rename, Context.mark_rename]
    rfl
  defineVariable {c _ s} _ h := by
    rw [h]
    exact congrArg (fun context => { c.rename r with context }) (c.context.defineVariable_rename s)
  defineFunction _ _ h := by rw [h]; rfl
  noteFunction _ _ h := by rw [h]; simp [Checker.rename]
  returnType? h := by rw [h]; rfl

theorem renaming_leaves (hr : Function.Injective r) (rules : Rules) :
    (Pairing.renaming r).Leaves rules rules where
  infer {e e'} he := by
    obtain rfl : e' = e.rename r := he
    rintro _ c _ rfl -
    obtain ⟨htypes, hresult⟩ := infer_rename (d := rules.detector) (c := c.context) hr e
    rw [Rules.run_infer, Rules.run_infer]
    dsimp only [Checker.rename]
    rw [htypes]
    generalize (e.infer rules.detector c.context).result = result at hresult ⊢
    generalize ((e.rename r).infer rules.detector (c.context.rename r)).result = result'
      at hresult ⊢
    cases hresult with
    | ok t => exact .ok trivial rfl trivial
    | error hpos hkind => exact .error fun _ => ⟨⟨hpos, hkind⟩, rfl⟩
  pos {e e'} he := by
    obtain rfl : e' = e.rename r := he
    exact ⟨e.pos_rename, trivial⟩
  resolve {a} _ _ _ := by
    rintro _ c _ rfl -
    rw [Rules.run_resolve, Rules.run_resolve]
    have hnames : rules.names (c.rename r).context = rules.names c.context := rfl
    rw [hnames]
    cases a.resolve (rules.names c.context) with
    | ok t => exact .ok trivial rfl trivial
    | error e => exact .error fun _ => ⟨⟨rfl, rfl⟩, rfl⟩
  errors _ _ hfault := ⟨rfl, hfault.kind⟩

theorem ifAny_rename (e : Expr) : (Pairing.renaming r).IfAny e (e.rename r) := by
  cases e with
  | absent => exact .absent
  | _ => exact .present nofun nofun rfl

theorem head_rename (head : FnHead) : (Pairing.renaming r).Head head :=
  ⟨fun _ _ => ⟨trivial, fun _ _ => trivial⟩, fun _ _ => trivial⟩

mutual
theorem paired_rename : (s : Stmt) → Stmt.Paired (.renaming r) s (s.rename r)
  | .absent => .absent
  | .fn head _ body => .fn (head_rename head) (allPaired_rename body)
  | .prototype head => .prototype (head_rename head)
  | .letDecl _ _ _ _ value => .letDecl trivial (fun _ _ => trivial) (ifAny_rename value)
  | .ret _ value => .ret trivial (ifAny_rename value)
  | .block _ body => .block (allPaired_rename body)
  | .ifElse _ _ yes no => .ifElse rfl (paired_rename yes) (paired_rename no)
  | .whileLoop _ _ body => .whileLoop rfl (paired_rename body)
  | .forLoop _ init e step body =>
    .forLoop (paired_rename init) (ifAny_rename e) (ifAny_rename step) (paired_rename body)
  | .expr _ _ => .expr rfl
theorem allPaired_rename : (body : List Stmt) →
    Stmt.AllPaired (.renaming r) body (Stmt.renameAll r body)
  | [] => .nil
  | s :: rest => .cons (paired_rename s) (allPaired_rename rest)
end

-- ---------------------------------------------------------------------------
-- Programs
-- ---------------------------------------------------------------------------

theorem Checker.fresh_rename (hbuiltin : ∀ name ∈ ["print", "println", "printf"], r name = name)
    (o : CheckOptions) : (Checker.fresh o).rename r = Checker.fresh o := by
  have hinitial : Context.initial.symbols.map (·.rename r) = Context.initial.symbols := by
    simpa [Context.initial, Context.builtins, Context.functionSymbol, Symbol.rename] using hbuiltin
  simp only [fresh, rename, Context.rename, Context.foldl_declareOpaque, hinitial, List.map_nil]

/-- Renaming changes nothing about the check of a program. The expressions stand where they stood
and have the types they had; the names behind the program are those of before, renamed; and if
there is an error, it is of the same kind and at the same place. -/
theorem check_rename (r : String → String) (hr : Function.Injective r)
    (hbuiltin : ∀ name ∈ ["print", "println", "printf"], r name = name)
    (o : CheckOptions) (p : Program) :
    (∀ path, (p.rename r).exprAt? path = (p.exprAt? path).map (·.rename r)) ∧
    match p.check o, (p.rename r).check o with
    | .ok c, .ok c' =>
      c'.types = c.types ∧
      c'.context.visibleVariables =
        c.context.visibleVariables.map (fun (name, t) => (r name, t)) ∧
      c'.context.visibleFunctions =
        c.context.visibleFunctions.map (fun (name, t) => (r name, t))
    | .error e, .error e' => e'.fault.kind = e.fault.kind ∧ e'.pos = e.pos
    | _, _ => False := by
  refine ⟨p.exprAt?_rename, ?_⟩
  have hends : (Pairing.renaming r).Ends _ _ true (p.run o) ((p.rename r).run o) :=
    (allPaired_rename p.statements).run (renaming_leaves hr o.rules)
      (Checker.fresh_rename hbuiltin o).symm
  unfold Program.check
  generalize p.run o = outcome at hends ⊢
  generalize (p.rename r).run o = outcome' at hends ⊢
  cases hends with
  | @ok _ c _ _ hc =>
    obtain rfl : _ = c.rename r := hc
    exact ⟨rfl, c.context.visible_rename hr⟩
  | error h =>
    obtain ⟨⟨hpos, hkind⟩, -⟩ := h trivial
    exact ⟨hkind, hpos⟩
  | alone hstep => exact (hstep trivial).elim

/-- `let x = 1; fn f(x: f64) -> f64 { return x }; let y = f(2.0)` -/
def shadowingParam : Program where
  name := ""
  statements := [
    .letDecl default "x" false none (.int default 1),
    .fn ⟨default, "f", [⟨"x", some ⟨"f64", false, default⟩, default⟩],
        some ⟨"f64", false, default⟩⟩ default [.ret default (.ident default "x")],
    .letDecl default "y" false none (.call default (.ident default "f") [.float default default])]

def exchange (a b name : String) : String :=
  if name = a then b else if name = b then a else name

theorem exchange_exchange (a b name : String) : exchange a b (exchange a b name) = name := by
  unfold exchange
  grind

theorem check_rename_exchanged :
    ∃ c c', shadowingParam.check { detector := .baseline .x86_64 } = .ok c ∧
      (shadowingParam.rename (exchange "x" "y")).check { detector := .baseline .x86_64 } = .ok c' ∧
      c'.types = c.types ∧ c.context.visibleVariables = [("y", .f64), ("x", .i64)] ∧
      c'.context.visibleVariables = [("x", .f64), ("y", .i64)] := by
  have hnames : (shadowingParam.check { detector := .baseline .x86_64 }).toOption.map
      (·.context.visibleVariables) = some [("y", .f64), ("x", .i64)] := by
    decide +kernel
  have hrename := (check_rename (exchange "x" "y")
    (Function.LeftInverse.injective (exchange_exchange "x" "y")) (by decide)
    { detector := .baseline .x86_64 } shadowingParam).2
  cases hc : shadowingParam.check { detector := .baseline .x86_64 } with
  | error e => simp [hc, Except.toOption] at hnames
  | ok c =>
    cases hc' : (shadowingParam.rename (exchange "x" "y")).check
        { detector := .baseline .x86_64 } with
    | error e => simp [hc, hc'] at hrename
    | ok c' =>
      simp only [hc, hc'] at hrename
      simp only [hc, Except.toOption, Option.map_some, Option.some.injEq] at hnames
      refine ⟨c, c', rfl, rfl, hrename.1, hnames, ?_⟩
      rw [hrename.2.1, hnames]
      decide

end Lanewise
