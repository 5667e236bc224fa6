import Lanewise.Check.Program

/-!
# Places and recorded types

Where in a program an expression is, and which type a check has recorded there. The recorded types
of a node are those of its children, one after the other, and then its own (`Within`).
-/

namespace Lanewise

-- ---------------------------------------------------------------------------
-- Places
-- ---------------------------------------------------------------------------

def Expr.exprAt? (e : Expr) : Path → Option Expr
  | [] => some e
  | n :: path => e.children[n]?.bind (·.exprAt? path)

def Stmt.exprAt? (s : Stmt) : Path → Option Expr
  | [] => none
  | n :: path =>
    match s, n with
    | .fn _ _ body, n | .block _ body, n => body[n]?.bind (·.exprAt? path)
    | .letDecl _ _ _ _ value, 0 | .ret _ value, 0 | .expr _ value, 0 => value.exprAt? path
    | .ifElse _ condition _ _, 0 | .whileLoop _ condition _, 0 => condition.exprAt? path
    | .ifElse _ _ yes _, 1 => yes.exprAt? path
    | .ifElse _ _ _ no, 2 => no.exprAt? path
    | .whileLoop _ _ body, 1 => body.exprAt? path
    | .forLoop _ init _ _ _, 0 => init.exprAt? path
    | .forLoop _ _ condition _ _, 1 => condition.exprAt? path
    | .forLoop _ _ _ step _, 2 => step.exprAt? path
    | .forLoop _ _ _ _ body, 3 => body.exprAt? path
    | _, _ => none

/-- The number of children of a statement, absent ones included. -/
def Stmt.arity : Stmt → Nat
  | .absent | .prototype _ => 0
  | .fn _ _ body | .block _ body => body.length
  | .letDecl .. | .ret .. | .expr .. => 1
  | .whileLoop .. => 2
  | .ifElse .. => 3
  | .forLoop .. => 4

theorem Stmt.exprAt?_eq_none (s : Stmt) (h : s.arity ≤ n) : s.exprAt? (n :: path) = none := by
  cases s with
  | absent => rfl
  | prototype => rfl
  | fn _ _ body => simp [exprAt?, List.getElem?_eq_none h]
  | block _ body => simp [exprAt?, List.getElem?_eq_none h]
  | _ =>
    obtain ⟨m, rfl⟩ := Nat.exists_eq_add_of_le' h
    rfl

def Program.exprAt? (p : Program) : Path → Option Expr
  | [] => none
  | n :: path => p.statements[n]?.bind (·.exprAt? path)

section
variable {places : Path → Option Expr} {item : α} {rest : List α} {at? : α → Path → Option Expr}

theorem places_head
    (h : ∀ i path, places ((i + n) :: path) = (item :: rest)[i]?.bind (at? · path)) :
    (fun path => places (n :: path)) = at? item := by
  funext path
  simpa using h 0 path

theorem places_tail
    (h : ∀ i path, places ((i + n) :: path) = (item :: rest)[i]?.bind (at? · path)) :
    ∀ i path, places ((i + (n + 1)) :: path) = rest[i]?.bind (at? · path) := by
  intro i path
  simpa [Nat.add_right_comm, Nat.add_assoc] using h (i + 1) path

end

-- ---------------------------------------------------------------------------
-- Listed places
-- ---------------------------------------------------------------------------

theorem cons_mem_numbered {items : List α} {paths : α → List Path} {at? : α → Path → Option Expr}
    (h : ∀ item, path ∈ paths item ↔ ∃ e, at? item path = some e ∧ e ≠ .absent) :
    (n :: path) ∈ (items.zipIdx.flatMap fun (item, i) => (paths item).map (i :: ·)) ↔
      ∃ e, items[n]?.bind (at? · path) = some e ∧ e ≠ .absent := by
  simp only [List.mem_flatMap, Prod.exists, List.mem_zipIdx_iff_getElem?, List.mem_map,
    List.cons.injEq, Option.bind_eq_some_iff]
  constructor
  · rintro ⟨item, i, hitem, rest, hrest, rfl, rfl⟩
    obtain ⟨e, he, hne⟩ := (h item).mp hrest
    exact ⟨e, ⟨item, hitem, he⟩, hne⟩
  · rintro ⟨e, ⟨item, hitem, he⟩, hne⟩
    exact ⟨item, n, hitem, path, (h item).mpr ⟨e, he, hne⟩, rfl, rfl⟩

namespace Expr

theorem paths_eq {e : Expr} (h : e ≠ .absent) : e.paths = [] :: pathsFrom 0 e.children := by
  cases e with
  | absent => exact (h rfl).elim
  | _ => simp [paths, pathsFrom, children]

theorem pathsFrom_eq (es : List Expr) (n : Nat) :
    pathsFrom n es = (es.zipIdx n).flatMap fun (e, i) => e.paths.map (i :: ·) := by
  induction es generalizing n with
  | nil => rfl
  | cons e es ih => simp [pathsFrom, ih]

theorem mem_paths {e : Expr} : path ∈ e.paths ↔ ∃ g, e.exprAt? path = some g ∧ g ≠ .absent := by
  induction path generalizing e with
  | nil =>
    by_cases h : e = .absent
    · simp [h, paths, exprAt?]
    · simp [paths_eq h, exprAt?, h]
  | cons n path ih =>
    by_cases h : e = .absent
    · simp [h, paths, exprAt?, children]
    · rw [paths_eq h, List.mem_cons, or_iff_right (by simp), pathsFrom_eq]
      exact cons_mem_numbered fun child => ih

end Expr

namespace Stmt

theorem pathsFrom_eq (body : List Stmt) (n : Nat) :
    pathsFrom n body = (body.zipIdx n).flatMap fun (s, i) => s.paths.map (i :: ·) := by
  induction body generalizing n with
  | nil => rfl
  | cons s rest ih => simp [pathsFrom, ih]

theorem mem_paths {s : Stmt} : path ∈ s.paths ↔ ∃ e, s.exprAt? path = some e ∧ e ≠ .absent := by
  induction path generalizing s with
  | nil => cases s <;> simp [paths, pathsFrom_eq, exprAt?]
  | cons n path ih =>
    cases s with
    | fn _ _ body =>
      rw [paths, pathsFrom_eq]
      exact cons_mem_numbered fun s => ih
    | block _ body =>
      rw [paths, pathsFrom_eq]
      exact cons_mem_numbered fun s => ih
    | _ =>
      rcases n with _ | _ | _ | _ | n <;> simp [paths, exprAt?, Expr.mem_paths, ih]

end Stmt

theorem Program.mem_paths {p : Program} :
    path ∈ Stmt.pathsFrom 0 p.statements ↔ ∃ e, p.exprAt? path = some e ∧ e ≠ .absent := by
  rw [Stmt.pathsFrom_eq]
  cases path with
  | nil => simp [exprAt?]
  | cons n path => exact cons_mem_numbered fun s => s.mem_paths

-- ---------------------------------------------------------------------------
-- Recorded types
-- ---------------------------------------------------------------------------

namespace TypeLog

/-- All of these are types below the children from number `lo` up to `hi`. -/
structure Within (lo hi : Nat) (log : TypeLog) : Prop where
  ordered : lo ≤ hi
  between : ∀ entry ∈ log, ∃ n path, entry.1 = n :: path ∧ lo ≤ n ∧ n < hi

section
variable {log : TypeLog}

theorem typeAt?_append (first second : TypeLog) (path : Path) :
    typeAt? (first ++ second) path = (typeAt? first path).or (typeAt? second path) :=
  List.lookup_append

theorem typeAt?_eq_none (h : ∀ entry ∈ log, entry.1 ≠ path) : log.typeAt? path = none := by
  rw [typeAt?, List.lookup_eq_none_iff]
  intro entry hentry
  simpa using (h entry hentry).symm

@[simp] theorem typeAt?_below : (log.below n).typeAt? (n :: path) = log.typeAt? path := by
  unfold typeAt? below
  induction log with
  | nil => rfl
  | cons entry rest ih =>
    obtain ⟨key, t⟩ := entry
    by_cases same : path = key
    · simp [same]
    · have skip : (path == key) = false := by simpa using same
      simp [List.lookup_cons, skip, ih]

theorem Within.nil : Within n n [] := ⟨Nat.le_refl n, fun _ h => (nomatch h)⟩

theorem Within.below (log : TypeLog) (n : Nat) : Within n (n + 1) (log.below n) := by
  refine ⟨Nat.le_succ n, fun entry hentry => ?_⟩
  obtain ⟨inner, -, rfl⟩ := List.mem_map.mp hentry
  exact ⟨n, inner.1, rfl, Nat.le_refl n, Nat.lt_succ_self n⟩

theorem Within.append (hfirst : Within lo mid first) (hsecond : Within mid hi second) :
    Within lo hi (first ++ second) := by
  have hlo := hfirst.ordered
  have hhi := hsecond.ordered
  refine ⟨Nat.le_trans hlo hhi, fun entry hentry => ?_⟩
  rcases List.mem_append.mp hentry with h | h
  · obtain ⟨n, path, hpath, hn, hn'⟩ := hfirst.between entry h
    exact ⟨n, path, hpath, hn, by omega⟩
  · obtain ⟨n, path, hpath, hn, hn'⟩ := hsecond.between entry h
    exact ⟨n, path, hpath, by omega, hn'⟩

theorem Within.typeAt?_nil (h : Within lo hi log) : log.typeAt? [] = none := by
  refine typeAt?_eq_none fun entry hentry => ?_
  obtain ⟨n, path, hpath, -⟩ := h.between entry hentry
  simp [hpath]

theorem Within.typeAt?_outside (h : Within lo hi log) (hn : n < lo ∨ hi ≤ n) :
    log.typeAt? (n :: path) = none := by
  refine typeAt?_eq_none fun entry hentry => ?_
  obtain ⟨m, rest, hpath, hm, hm'⟩ := h.between entry hentry
  rw [hpath]
  rintro ⟨⟩
  omega

theorem Within.typeAt?_append_left (hsecond : Within mid hi second) (hn : n < mid) :
    (first ++ second).typeAt? (n :: path) = first.typeAt? (n :: path) := by
  rw [typeAt?_append, hsecond.typeAt?_outside (.inl hn), Option.or_none]

theorem Within.typeAt?_append_right (hfirst : Within lo mid first) (hn : mid ≤ n) :
    (first ++ second).typeAt? (n :: path) = second.typeAt? (n :: path) := by
  rw [typeAt?_append, hfirst.typeAt?_outside (.inr hn), Option.none_or]

end

end TypeLog

end Lanewise
