import Lanewise.Lint.Names
import Lanewise.Proofs.Check.Places
import Mathlib.Data.List.Sigma

/-!
# Walks through a program

Statements and expressions as the nodes of one tree. A walk starts at a node, comes to a node before
its children and enters those children that its rule allows. It comes to every node in its sight
(`mem_visits`) and to each of them once (`nodup_visits`), so what it gathers can be told from the
places in the tree alone.
-/

namespace Lanewise

inductive ProgramNode
  | stmt (s : Stmt)
  | expr (e : Expr)

namespace ProgramNode

def children : ProgramNode → List ProgramNode
  | .expr e => e.children.map .expr
  | .stmt s =>
    match s with
    | .absent | .prototype _ => []
    | .fn _ _ body | .block _ body => body.map .stmt
    | .letDecl _ _ _ _ value | .ret _ value | .expr _ value => [.expr value]
    | .ifElse _ condition yes no => [.expr condition, .stmt yes, .stmt no]
    | .whileLoop _ condition body => [.expr condition, .stmt body]
    | .forLoop _ init condition step body =>
      [.stmt init, .expr condition, .expr step, .stmt body]

theorem sizeOf_children {n c : ProgramNode} (h : c ∈ n.children) : sizeOf c < sizeOf n := by
  cases n with
  | expr e =>
    have smaller (x : Expr) es (hx : x ∈ es) : sizeOf x < sizeOf es := List.sizeOf_lt_of_mem hx
    cases e <;> grind [children, Expr.children]
  | stmt s =>
    have smaller (x : Stmt) body (hx : x ∈ body) : sizeOf x < sizeOf body :=
      List.sizeOf_lt_of_mem hx
    cases s <;> grind [children]

def at? (n : ProgramNode) : Path → Option ProgramNode
  | [] => some n
  | i :: path => n.children[i]?.bind (·.at? path)

/-- Every step of the path is one that a walk with the rule takes. -/
def InSight (enters : ProgramNode → Nat → Bool) (n : ProgramNode) (path : Path) : Prop :=
  ∀ before i after m, path = before ++ i :: after → n.at? before = some m → enters m i = true

/-- The nodes that a walk comes to, with their places. It enters the children of a node that its
rule allows by number. -/
def visits (enters : ProgramNode → Nat → Bool) (n : ProgramNode) : List (Path × ProgramNode) :=
  ([], n) :: (n.children.zipIdx.filter (enters n ·.2)).attach.flatMap fun ⟨c, _⟩ =>
    (c.1.visits enters).map fun v => (c.2 :: v.1, v.2)
termination_by sizeOf n
decreasing_by
  rename_i h
  exact sizeOf_children (List.fst_mem_of_mem_zipIdx (List.mem_filter.mp h).1)

section
variable {n m : ProgramNode} {enters : ProgramNode → Nat → Bool}

theorem visits_eq : n.visits enters =
    ([], n) :: (n.children.zipIdx.filter (enters n ·.2)).flatMap fun c =>
      (c.1.visits enters).map fun v => (c.2 :: v.1, v.2) := by
  rw [visits, List.flatMap_subtype (fun _ _ => rfl), List.unattach_attach]

theorem at?_append (first second : Path) :
    n.at? (first ++ second) = (n.at? first).bind (·.at? second) := by
  induction first generalizing n with
  | nil => rfl
  | cons i first ih =>
    simp only [List.cons_append, at?, Option.bind_assoc]
    congr 1
    funext c
    exact ih

theorem inSight_cons : n.InSight enters (i :: path) ↔
    enters n i = true ∧ ∀ c, n.children[i]? = some c → c.InSight enters path := by
  constructor
  · intro h
    refine ⟨h [] i path n rfl rfl, fun c hc before j after m hpath hm => ?_⟩
    refine h (i :: before) j after m (by rw [hpath, List.cons_append]) ?_
    rw [at?, hc, Option.bind_some, hm]
  · rintro ⟨hi, hrest⟩ before j after m hpath hm
    cases before with
    | nil =>
      cases hpath
      cases hm
      exact hi
    | cons k before =>
      cases hpath
      obtain ⟨c, hc, hm⟩ := Option.bind_eq_some_iff.mp hm
      exact hrest c hc before j after m rfl hm

theorem mem_visits :
    (path, m) ∈ n.visits enters ↔ n.at? path = some m ∧ n.InSight enters path := by
  induction path generalizing n with
  | nil =>
    rw [visits_eq]
    simp [at?, InSight, @eq_comm _ m]
  | cons i path ih =>
    rw [visits_eq, List.mem_cons, or_iff_right (by simp), inSight_cons]
    simp only [List.mem_flatMap, List.mem_filter, Prod.exists, List.mem_zipIdx_iff_getElem?,
      List.mem_map, Prod.mk.injEq, List.cons.injEq]
    constructor
    · rintro ⟨c, _, ⟨hc, hi⟩, _, _, hm, ⟨rfl, rfl⟩, rfl⟩
      obtain ⟨hat, hsight⟩ := ih.mp hm
      refine ⟨by rw [at?, hc, Option.bind_some, hat], hi, fun c' hc' => ?_⟩
      exact Option.some.inj (hc.symm.trans hc') ▸ hsight
    · rintro ⟨hat, hi, hsight⟩
      obtain ⟨c, hc, hat⟩ := Option.bind_eq_some_iff.mp hat
      exact ⟨c, i, ⟨hc, hi⟩, path, m, ih.mpr ⟨hat, hsight c hc⟩, ⟨rfl, rfl⟩, rfl⟩

theorem nodup_visits (enters : ProgramNode → Nat → Bool) (n : ProgramNode) :
    ((n.visits enters).map Prod.fst).Nodup := by
  have numbered : (n.children.zipIdx.filter (enters n ·.2)).Pairwise (·.2 ≠ ·.2) :=
    (List.pairwise_map.mp (List.nodup_zipIdx_map_snd n.children)).filter _
  rw [visits_eq, List.map_cons, List.nodup_cons, List.map_flatMap, List.nodup_flatMap]
  refine ⟨by simp, fun c hc => ?_, numbered.imp fun {a b} hne path ha hb => ?_⟩
  · have hc := List.fst_mem_of_mem_zipIdx (List.mem_filter.mp hc).1
    have keys := (nodup_visits enters c.1).map (List.cons_injective (a := c.2))
    rwa [List.map_map] at keys ⊢
  · -- Paths below different children differ in their first number.
    simp only [List.map_map, List.mem_map, Function.comp_apply] at ha hb
    obtain ⟨v, -, rfl⟩ := ha
    obtain ⟨w, -, heq⟩ := hb
    exact hne (List.cons.inj heq).1.symm
termination_by sizeOf n
decreasing_by exact sizeOf_children hc

/-- What stands at different places keeps different keys if those of each place do. -/
theorem nodup_keys {found : Path × ProgramNode → List α} {key : α → κ}
    {visited : List (Path × ProgramNode)}
    (hvisited : (visited.map Prod.fst).Nodup) (hkeys : ∀ v ∈ visited, ((found v).map key).Nodup)
    (hplace : ∀ v ∈ visited, ∀ w ∈ visited, ∀ x ∈ found v, ∀ y ∈ found w,
      key x = key y → v.1 = w.1) :
    ((visited.flatMap found).map key).Nodup := by
  rw [List.map_flatMap, List.nodup_flatMap]
  refine ⟨hkeys, (List.pairwise_map.mp hvisited).imp_of_mem fun {v w} hv hw hne k hk hk' => ?_⟩
  obtain ⟨x, hx, rfl⟩ := List.mem_map.mp hk
  obtain ⟨y, hy, heq⟩ := List.mem_map.mp hk'
  exact hne (hplace v hv w hw x hx y hy heq.symm)

-- ---------------------------------------------------------------------------
-- What a walk gathers
-- ---------------------------------------------------------------------------

def gather (enters : ProgramNode → Nat → Bool) (pick : ProgramNode → List α)
    (n : ProgramNode) : List α :=
  (n.visits enters).flatMap fun v => pick v.2

variable {pick : ProgramNode → List α}

theorem mem_gather : x ∈ n.gather enters pick ↔
    ∃ path m, n.at? path = some m ∧ n.InSight enters path ∧ x ∈ pick m := by
  simp [gather, mem_visits, and_assoc]

theorem gather_eq : n.gather enters pick = pick n ++
    (n.children.zipIdx.filter (enters n ·.2)).flatMap fun c => c.1.gather enters pick := by
  rw [gather, visits_eq, List.flatMap_cons, List.flatMap_assoc]
  simp only [List.flatMap_map, gather]

theorem flatMap_zipIdx (ns : List ProgramNode) (start : Nat) (f : ProgramNode → List α) :
    (ns.zipIdx start).flatMap (fun c => f c.1) = ns.flatMap f := by
  rw [← List.flatMap_map, List.zipIdx_map_fst]

theorem gather_all (h : ∀ i, enters n i = true) :
    n.gather enters pick = pick n ++ n.children.flatMap (·.gather enters pick) := by
  rw [gather_eq, List.filter_eq_self.mpr fun c _ => h c.2, flatMap_zipIdx]

theorem gather_none (h : ∀ i, enters n i = false) : n.gather enters pick = pick n := by
  rw [gather_eq, List.filter_eq_nil_iff.mpr fun c _ => by simp [h c.2], List.flatMap_nil,
    List.append_nil]

theorem gather_tail (hn : n.children = c :: rest) (h : ∀ i, enters n i = (i != 0)) :
    n.gather enters pick = pick n ++ rest.flatMap (·.gather enters pick) := by
  have later (d) (hd : d ∈ rest.zipIdx 1) : enters n d.2 = true := by
    have := List.le_snd_of_mem_zipIdx hd
    simp [h]
    omega
  rw [gather_eq, hn, List.zipIdx_cons, List.filter_cons_of_neg (by simp [h]),
    List.filter_eq_self.mpr later, flatMap_zipIdx]

-- ---------------------------------------------------------------------------
-- Expressions among the nodes
-- ---------------------------------------------------------------------------

theorem at?_expr (e : Expr) (path : Path) : (expr e).at? path = (e.exprAt? path).map .expr := by
  induction path generalizing e with
  | nil => rfl
  | cons i path ih =>
    rw [at?, children, List.getElem?_map, Expr.exprAt?]
    cases e.children[i]? with
    | none => rfl
    | some c => exact ih c

theorem at?_expr_eq_some {e g : Expr} :
    (expr e).at? path = some (expr g) ↔ e.exprAt? path = some g := by
  simp [at?_expr]

theorem at?_stmt_eq_some {s : Stmt} {e : Expr} :
    (stmt s).at? path = some (expr e) ↔ s.exprAt? path = some e := by
  induction path generalizing s with
  | nil => simp [at?, Stmt.exprAt?]
  | cons i path ih =>
    cases s with
    | fn _ _ body | block _ body =>
      simp only [at?, children, List.getElem?_map, Stmt.exprAt?]
      cases body[i]? with
      | none => simp
      | some s => exact ih
    | _ =>
      rcases i with _ | _ | _ | _ | i <;>
        simp [at?, children, Stmt.exprAt?, at?_expr_eq_some, ih]

theorem at?_name {l : Expr} (hl : l.name?.isSome = true) (h : (expr l).at? path = some m) :
    path = [] := by
  cases l with
  | ident =>
    cases path with
    | nil => rfl
    | cons i path => simp [at?, children, Expr.children] at h
  | _ => cases hl

theorem gather_expr (h : ∀ e, pick (.expr e) = []) (e : Expr) :
    (expr e).gather enters pick = [] := by
  refine List.flatMap_eq_nil_iff.mpr fun v hv => ?_
  have hat := (mem_visits.mp hv).1
  rw [at?_expr] at hat
  obtain ⟨g, -, hg⟩ := Option.map_eq_some_iff.mp hat
  rw [← hg, h]

end

end ProgramNode

def ProgramNode.ofStmts (statements : List Stmt) : ProgramNode := .stmt (.block .none statements)

def Program.node (p : Program) : ProgramNode := .ofStmts p.statements

theorem Program.at?_node_eq_some {p : Program} :
    p.node.at? path = some (.expr e) ↔ p.exprAt? path = some e := by
  rw [node, ProgramNode.ofStmts, ProgramNode.at?_stmt_eq_some]
  cases path <;> rfl

end Lanewise
