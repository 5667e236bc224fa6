import Lanewise.Proofs.Check.Places
import Lanewise.Proofs.Lint.Bodies

/-!
# Mutable variables that nothing changes

A mutable variable is reported if no assignment to its name and no `&` before it is found in the
body of the function that declares it (`lint_neverReassigned`). The search goes through every
statement, but not into functions inside the body, and of the expressions not into the operands of
indexing, of field access and of most vector operators. A change that stands there is missed
(`lint_missesChange`).
-/

namespace Lanewise

/-- The expression assigns to the name or takes its address. -/
inductive Expr.Changes (x : String) : Expr → Prop
  | assigned (h : op.isAssignment = true) : Changes x (.binary p op (.ident q x) r)
  | addressed : Changes x (.unary p .ref (.ident q x))

-- ---------------------------------------------------------------------------
-- What the search sees
-- ---------------------------------------------------------------------------

def Expr.searches : Expr → Nat → Bool
  | .binary .., _ | .unary .., _ | .group .., _ | .load .., _ | .store .., _ => true
  -- The callee comes first.
  | .call .., n => n != 0
  | _, _ => false

/-- Every step of the path is one that the search takes. -/
def Expr.inSight (e : Expr) : Path → Bool
  | [] => true
  | n :: path => e.searches n && e.children[n]?.any (·.inSight path)

def Stmt.inSight (s : Stmt) : Path → Bool
  | [] => false
  | n :: path =>
    match s, n with
    | .block _ body, n => body[n]?.any (·.inSight path)
    | .letDecl _ _ _ _ value, 0 | .ret _ value, 0 | .expr _ value, 0 => value.inSight path
    | .ifElse _ condition _ _, 0 | .whileLoop _ condition _, 0 => condition.inSight path
    | .ifElse _ _ yes _, 1 => yes.inSight path
    | .ifElse _ _ _ no, 2 => no.inSight path
    | .whileLoop _ _ body, 1 => body.inSight path
    | .forLoop _ init _ _ _, 0 => init.inSight path
    | .forLoop _ _ condition _ _, 1 => condition.inSight path
    | .forLoop _ _ _ step _, 2 => step.inSight path
    | .forLoop _ _ _ _ body, 3 => body.inSight path
    | _, _ => false

-- ---------------------------------------------------------------------------
-- Changes in expressions
-- ---------------------------------------------------------------------------

namespace Expr

variable {e : Expr}

theorem changes_binary :
    (binary p op l r).Changes x ↔ op.isAssignment = true ∧ l.name? = some x := by
  constructor
  · rintro (h | _)
    exact ⟨h, rfl⟩
  · rintro ⟨h, hname⟩
    cases l with
    | ident q y =>
      cases hname
      exact .assigned h
    | _ => cases hname

theorem changes_unary : (unary p op e).Changes x ↔ op = .ref ∧ e.name? = some x := by
  constructor
  · rintro (_ | _)
    exact ⟨rfl, rfl⟩
  · rintro ⟨rfl, hname⟩
    cases e with
    | ident q y =>
      cases hname
      exact .addressed
    | _ => cases hname

theorem mem_assignedName : x ∈ assignedName op l ↔ op.isAssignment = true ∧ l.name? = some x := by
  unfold assignedName
  split
  case isTrue h => simp [h]
  case isFalse h => simp [h]

theorem mem_addressedName : x ∈ addressedName op e ↔ op = .ref ∧ e.name? = some x := by
  unfold addressedName
  split
  case isTrue h => simp_all
  case isFalse h => simp_all

def ChangedAt (x : String) (e : Expr) (path : Path) : Prop :=
  e.inSight path = true ∧ ∃ g, e.exprAt? path = some g ∧ g.Changes x

def searched : Expr → List Expr
  | .binary _ _ l r | .store _ l r => [l, r]
  | .unary _ _ e | .group _ e | .load _ e _ => [e]
  | .call _ _ args => args
  | _ => []

theorem mem_searched : c ∈ e.searched ↔ ∃ n, e.searches n = true ∧ e.children[n]? = some c := by
  cases e with
  | call _ f args =>
    rw [searched, List.mem_iff_getElem?]
    constructor
    · rintro ⟨n, h⟩
      exact ⟨n + 1, rfl, h⟩
    · rintro ⟨_ | n, hn, h⟩
      · cases hn
      · exact ⟨n, h⟩
  | binary => simp [searched, searches, children, ← List.mem_iff_getElem?]
  | store => simp [searched, searches, children, ← List.mem_iff_getElem?]
  | unary => simp [searched, searches, children, ← List.mem_iff_getElem?]
  | group => simp [searched, searches, children, ← List.mem_iff_getElem?]
  | load => simp [searched, searches, children, ← List.mem_iff_getElem?]
  | _ => simp [searched, searches]

theorem exists_changedAt :
    (∃ path, e.ChangedAt x path) ↔ e.Changes x ∨ ∃ c ∈ e.searched, ∃ path, c.ChangedAt x path := by
  constructor
  · rintro ⟨path, hsight, g, hat, hg⟩
    cases path with
    | nil =>
      cases hat
      exact .inl hg
    | cons n path =>
      obtain ⟨c, hc, hat⟩ := Option.bind_eq_some_iff.mp hat
      rw [inSight, hc, Bool.and_eq_true] at hsight
      exact .inr ⟨c, mem_searched.mpr ⟨n, hsight.1, hc⟩, path, hsight.2, g, hat, hg⟩
  · rintro (h | ⟨c, hc, path, hsight, g, hat, hg⟩)
    · exact ⟨[], rfl, e, rfl, h⟩
    · obtain ⟨n, hn, hc⟩ := mem_searched.mp hc
      exact ⟨n :: path, by simp [inSight, hn, hc, hsight], g, by simp [exprAt?, hc, hat], hg⟩

mutual
theorem mem_writes : (e : Expr) → (x ∈ e.writes ↔ ∃ path, e.ChangedAt x path)
  | .binary _ op l r => by
    rw [exists_changedAt, changes_binary, writes, List.mem_append, List.mem_append,
      mem_assignedName, mem_writes l, mem_writes r, or_assoc]
    simp [searched]
  | .unary _ op e => by
    rw [exists_changedAt, changes_unary, writes, List.mem_append, mem_addressedName, mem_writes e]
    simp [searched]
  | .store _ l r => by
    rw [exists_changedAt, or_iff_right nofun, writes, List.mem_append, mem_writes l, mem_writes r]
    simp [searched]
  | .group _ e | .load _ e _ => by
    rw [exists_changedAt, or_iff_right nofun, writes, mem_writes e]
    simp [searched]
  | .call _ _ args => by
    rw [exists_changedAt, or_iff_right nofun, writes, mem_writesOfAll args, searched]
  | .absent | .int .. | .float .. | .bool .. | .string .. | .ident .. | .index .. | .field ..
  | .vector .. | .lanewise .. | .broadcast .. | .reduce .. | .dot .. | .swizzle .. => by
    rw [exists_changedAt, or_iff_right nofun]
    simp [writes, searched]
theorem mem_writesOfAll : (es : List Expr) →
    (x ∈ writesOfAll es ↔ ∃ e ∈ es, ∃ path, e.ChangedAt x path)
  | [] => by simp [writesOfAll]
  | e :: es => by
    rw [writesOfAll, List.mem_append, mem_writes e, mem_writesOfAll es]
    simp
end

end Expr

-- ---------------------------------------------------------------------------
-- Changes in statements
-- ---------------------------------------------------------------------------

namespace Stmt

def ChangedAt (x : String) (s : Stmt) (path : Path) : Prop :=
  s.inSight path = true ∧ ∃ g, s.exprAt? path = some g ∧ g.Changes x

theorem exists_changedAt {s : Stmt} (parts : List (Path → Prop))
    (h : ∀ n path, s.ChangedAt x (n :: path) ↔ ∃ part, parts[n]? = some part ∧ part path) :
    (∃ path, s.ChangedAt x path) ↔ ∃ part ∈ parts, ∃ path, part path := by
  constructor
  · rintro ⟨_ | ⟨n, path⟩, hpath⟩
    · cases hpath.1
    · obtain ⟨part, hpart, hpath⟩ := (h n path).mp hpath
      exact ⟨part, List.mem_of_getElem? hpart, path, hpath⟩
  · rintro ⟨part, hpart, path, hpath⟩
    obtain ⟨n, hn⟩ := List.mem_iff_getElem?.mp hpart
    exact ⟨n :: path, (h n path).mpr ⟨part, hn, hpath⟩⟩

mutual
theorem mem_writes : (s : Stmt) → (x ∈ s.writes ↔ ∃ path, s.ChangedAt x path)
  | .absent | .prototype _ | .fn .. => by
    rw [exists_changedAt []]
    · simp [writes]
    · intro n path
      simp [ChangedAt, inSight]
  | .block _ body => by
    rw [exists_changedAt (body.map (ChangedAt x)), writes, mem_writesOfAll body]
    · simp
    · intro n path
      simp only [ChangedAt, inSight, exprAt?, List.getElem?_map]
      cases body[n]? <;> simp [ChangedAt]
  | .letDecl _ _ _ _ value | .ret _ value | .expr _ value => by
    rw [exists_changedAt [value.ChangedAt x], writes, value.mem_writes]
    · simp
    · rintro (_ | n) path <;> simp [ChangedAt, Expr.ChangedAt, inSight, exprAt?]
  | .ifElse _ condition yes no => by
    rw [exists_changedAt [condition.ChangedAt x, yes.ChangedAt x, no.ChangedAt x],
      writes, List.mem_append, List.mem_append, condition.mem_writes, mem_writes yes,
      mem_writes no, or_assoc]
    · simp
    · rintro (_ | _ | _ | n) path <;> simp [ChangedAt, Expr.ChangedAt, inSight, exprAt?]
  | .whileLoop _ condition body => by
    rw [exists_changedAt [condition.ChangedAt x, body.ChangedAt x], writes,
      List.mem_append, condition.mem_writes, mem_writes body]
    · simp
    · rintro (_ | _ | n) path <;> simp [ChangedAt, Expr.ChangedAt, inSight, exprAt?]
  | .forLoop _ init condition step body => by
    rw [exists_changedAt [init.ChangedAt x, condition.ChangedAt x, step.ChangedAt x,
      body.ChangedAt x], writes, List.mem_append, List.mem_append, List.mem_append,
      mem_writes init, condition.mem_writes, step.mem_writes, mem_writes body, or_assoc, or_assoc]
    · simp
    · rintro (_ | _ | _ | _ | n) path <;> simp [ChangedAt, Expr.ChangedAt, inSight, exprAt?]
theorem mem_writesOfAll : (body : List Stmt) →
    (x ∈ writesOfAll body ↔ ∃ s ∈ body, ∃ path, s.ChangedAt x path)
  | [] => by simp [writesOfAll]
  | s :: rest => by
    rw [writesOfAll, List.mem_append, mem_writes s, mem_writesOfAll rest]
    simp
end

end Stmt

-- ---------------------------------------------------------------------------
-- The report
-- ---------------------------------------------------------------------------

theorem Finding.styleMessage?_neverReassigned {f : Finding} :
    f.styleMessage? = some ("variable '" ++ x ++ "' is declared mutable but never reassigned") ↔
      f = .neverReassigned x := by
  constructor
  · intro h
    cases f with
    | kind k => cases h
    | neverReassigned y => simpa using Option.some.inj h
    | unusedVariable y =>
      -- The two texts start alike and part at `...used` and `...reassigned`.
      have last := congrArg (fun text => text.toList.reverse[2]?) (Option.some.inj h)
      simp at last
    | _ =>
      have first := congrArg (fun text => text.toList.head?) (Option.some.inj h)
      simp at first
  · rintro rfl
    rfl

namespace Findings

theorem mem_ofBody_neverReassigned {head : FnHead} {body : List Stmt} {pos : Pos} :
    (pos, .neverReassigned x) ∈ ofBody head body ↔
      (⟨x, true, pos⟩ : Declared) ∈ Stmt.declaresOfAll body ∧ x ∉ Stmt.writesOfAll body := by
  simp only [ofBody, unusedParams, unusedVariables, neverReassigned, List.mem_append, List.mem_map,
    List.mem_filter, Prod.mk.injEq, reduceCtorEq, and_false, exists_false, false_or,
    Finding.neverReassigned.injEq, Bool.and_eq_true, Bool.not_eq_true', List.contains_eq_mem,
    decide_eq_false_iff_not]
  constructor
  · rintro ⟨v, ⟨hv, hmut, hwritten⟩, rfl, rfl⟩
    obtain ⟨name, isMut, pos⟩ := v
    cases hmut
    exact ⟨hv, hwritten⟩
  · rintro ⟨hv, hwritten⟩
    exact ⟨_, ⟨hv, rfl, hwritten⟩, rfl, rfl⟩

end Findings

theorem mem_lint_neverReassigned {p : Program} {d : Option Detector} {pos : Pos} :
    { severity := .warning
      message := "variable '" ++ x ++ "' is declared mutable but never reassigned"
      pos } ∈ p.lint d ↔
      ∃ f ∈ p.functions,
        (⟨x, true, pos⟩ : Declared) ∈ Stmt.declaresOfAll f.2 ∧ x ∉ Stmt.writesOfAll f.2 := by
  rw [Program.mem_lint rfl]
  constructor
  · rintro ⟨⟨_, found⟩, hfound, hw⟩
    obtain ⟨message, hmessage, hw⟩ := Option.map_eq_some_iff.mp hw
    obtain ⟨rfl, rfl⟩ : message = _ ∧ _ = pos := by simpa using hw
    obtain rfl := Finding.styleMessage?_neverReassigned.mp hmessage
    obtain ⟨f, hf, hfound⟩ := (Program.mem_findings rfl).mp hfound
    exact ⟨f, hf, Findings.mem_ofBody_neverReassigned.mp hfound⟩
  · rintro ⟨f, hf, hv⟩
    refine ⟨(pos, .neverReassigned x), (Program.mem_findings rfl).mpr ⟨f, hf, ?_⟩, rfl⟩
    exact Findings.mem_ofBody_neverReassigned.mpr hv

/-- A mutable variable of a function is reported exactly if every change of its name in the body of
that function stands where it is not searched for. -/
theorem lint_neverReassigned (p : Program) (d : Option Detector) (pos : Pos) (x : String) :
    { severity := .warning
      message := "variable '" ++ x ++ "' is declared mutable but never reassigned"
      pos } ∈ p.lint d ↔
      ∃ f ∈ p.functions, (⟨x, true, pos⟩ : Declared) ∈ Stmt.declaresOfAll f.2 ∧
        ∀ s ∈ f.2, ∀ path g, s.exprAt? path = some g → g.Changes x → s.inSight path = false := by
  simp only [mem_lint_neverReassigned, Stmt.mem_writesOfAll]
  constructor
  · rintro ⟨f, hf, hv, hunseen⟩
    refine ⟨f, hf, hv, fun s hs path g hg hchange => ?_⟩
    rw [← Bool.not_eq_true]
    intro hsight
    exact hunseen ⟨s, hs, path, hsight, g, hg, hchange⟩
  · rintro ⟨f, hf, hv, hout⟩
    refine ⟨f, hf, hv, ?_⟩
    rintro ⟨s, hs, path, hsight, g, hg, hchange⟩
    rw [hout s hs path g hg hchange] at hsight
    cases hsight

/-- `fn next(data: [i32]) -> i32 { let mut i = 0; return data[i += 1] }` -/
def incrementInIndex : Program where
  name := ""
  statements := [
    .fn ⟨default, "next", [⟨"data", some ⟨"[i32]", false, default⟩, default⟩],
        some ⟨"i32", false, default⟩⟩ default [
      .letDecl ⟨2, 1⟩ "i" true none (.int default 0),
      .ret default (.index default (.ident default "data")
        (.binary default .addAssign (.ident default "i") (.int default 1)))]]

/-- The report is wrong about a variable that is changed in an index. -/
theorem lint_missesChange :
    { severity := .warning
      message := "variable 'i' is declared mutable but never reassigned"
      pos := ⟨2, 1⟩ } ∈ incrementInIndex.lint none ∧
    ∃ f ∈ incrementInIndex.functions,
      (⟨"i", true, ⟨2, 1⟩⟩ : Declared) ∈ Stmt.declaresOfAll f.2 ∧
      ∃ s ∈ f.2, ∃ path g, s.exprAt? path = some g ∧ g.Changes "i" := by
  constructor
  · refine mem_lint_neverReassigned (x := "i").mpr ⟨_, .head _, .head _, ?_⟩
    decide
  · exact ⟨_, .head _, .head _, _, .tail _ (.head _), [0, 1], _, rfl, .assigned rfl⟩

end Lanewise
