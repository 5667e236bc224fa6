import Lanewise.Lint.Report
import Lanewise.Proofs.Recorded.Program
import Lanewise.Proofs.Strictness.Program

/-!
# Warnings about vector kinds

`lint_portability`: the check of a program asks for the support of every kind that a literal or a
load names, so linting an accepted program warns of kinds in annotations only, once for each
annotation whose innermost name is that of a kind the target does not run.
-/

namespace Lanewise

-- ---------------------------------------------------------------------------
-- Expressions and what is in them
-- ---------------------------------------------------------------------------

def Expr.Everywhere (P : Expr → Prop) (e : Expr) : Prop :=
  ∀ path g, e.exprAt? path = some g → P g

def Stmt.Everywhere (P : Expr → Prop) (s : Stmt) : Prop :=
  ∀ path g, s.exprAt? path = some g → P g

namespace Expr.Everywhere

variable {P : Expr → Prop} {e : Expr}

theorem self (h : e.Everywhere P) : P e := h [] e rfl

theorem child (h : e.Everywhere P) (hc : c ∈ e.children) : c.Everywhere P := by
  obtain ⟨n, hn⟩ := List.mem_iff_getElem?.mp hc
  intro path g hg
  refine h (n :: path) g ?_
  rw [exprAt?, hn, Option.bind_some, hg]

theorem below (h : e.Everywhere P) (hg : e.exprAt? path = some g) : g.Everywhere P := by
  induction path generalizing e with
  | nil =>
    obtain rfl : e = g := Option.some.inj hg
    exact h
  | cons n path ih =>
    obtain ⟨c, hc, hg⟩ := Option.bind_eq_some_iff.mp hg
    exact ih (h.child (List.mem_of_getElem? hc)) hg

end Expr.Everywhere

theorem Stmt.Everywhere.below {P : Expr → Prop} {s : Stmt} (h : s.Everywhere P)
    (hg : s.exprAt? path = some g) : g.Everywhere P := by
  induction path generalizing s with
  | nil => cases hg
  | cons n path ih =>
    cases s with
    | absent | prototype => cases hg
    | fn _ _ body | block _ body =>
      obtain ⟨t, ht, hg⟩ := Option.bind_eq_some_iff.mp hg
      exact ih (fun path g hg => h (n :: path) g (by simp [exprAt?, ht, hg])) hg
    | letDecl | ret | expr =>
      cases n with
      | zero => exact Expr.Everywhere.below (fun path => h (0 :: path)) hg
      | succ => cases hg
    | ifElse _ condition yes no =>
      rcases n with _ | _ | _ | n
      · exact Expr.Everywhere.below (fun path => h (0 :: path)) hg
      · exact ih (fun path => h (1 :: path)) hg
      · exact ih (fun path => h (2 :: path)) hg
      · cases hg
    | whileLoop _ condition body =>
      rcases n with _ | _ | n
      · exact Expr.Everywhere.below (fun path => h (0 :: path)) hg
      · exact ih (fun path => h (1 :: path)) hg
      · cases hg
    | forLoop _ init condition step body =>
      rcases n with _ | _ | _ | _ | n
      · exact ih (fun path => h (0 :: path)) hg
      · exact Expr.Everywhere.below (fun path => h (1 :: path)) hg
      · exact Expr.Everywhere.below (fun path => h (2 :: path)) hg
      · exact ih (fun path => h (3 :: path)) hg
      · cases hg

-- ---------------------------------------------------------------------------
-- Warnings among diagnostics
-- ---------------------------------------------------------------------------

def Diagnostic.isPortability (d : Detector) (w : Diagnostic) : Bool :=
  w.severity == .warning && "vector type ".toList.isPrefixOf w.message.toList &&
    (" is not native on target " ++ d.name).toList.isSuffixOf w.message.toList

def Detector.warnings (d : Detector) (findings : Findings) : Diagnostics :=
  findings.flatMap fun
    | (pos, .kind k) => d.portability pos k
    | _ => []

section
variable {d : Detector}

theorem Detector.warnings_append (fs gs : Findings) :
    d.warnings (fs ++ gs) = d.warnings fs ++ d.warnings gs :=
  List.flatMap_append

theorem Detector.filter_portability (pos : Pos) (k : VectorKind) :
    (d.portability pos k).filter (·.isPortability d) = d.portability pos k := by
  unfold portability
  split
  · rfl
  · have begins : "vector type ".toList.isPrefixOf
        ("vector type " ++ k.text ++ " is not native on target " ++ d.name).toList = true := by
      simp only [String.toList_append, List.append_assoc, List.isPrefixOf_iff_prefix]
      exact List.prefix_append _ _
    have ends : (" is not native on target " ++ d.name).toList.isSuffixOf
        ("vector type " ++ k.text ++ " is not native on target " ++ d.name).toList = true := by
      simp only [String.toList_append, List.append_assoc, List.isSuffixOf_iff_suffix]
      exact (List.suffix_append _ _).trans (List.suffix_append _ _)
    refine List.filter_eq_self.mpr fun w hw => ?_
    obtain rfl := List.mem_singleton.mp hw
    rw [Diagnostic.isPortability, begins, ends]
    rfl

theorem Detector.filter_notes (pos : Pos) (k : VectorKind) :
    (d.notes pos k).filter (·.isPortability d) = [] := by
  simp [notes, Diagnostic.isPortability]

/-- No matter of style begins as the warning about a kind does. -/
theorem Finding.isPortability_style {f : Finding} {pos : Pos} (h : f.styleMessage? = some message) :
    Diagnostic.isPortability d { severity := .warning, message, pos } = false := by
  have begins : "vector type ".toList.isPrefixOf message.toList = false := by
    cases f <;> cases h <;> simp [String.toList_append, List.isPrefixOf]
  rw [Diagnostic.isPortability, begins]
  rfl

theorem Findings.filter_report (findings : Findings) (advised : List VectorKind) :
    (report (some d) advised findings).filter (·.isPortability d) = d.warnings findings := by
  induction findings generalizing advised with
  | nil => rfl
  | cons finding rest ih =>
    obtain ⟨pos, f⟩ := finding
    have style {message : String} (h : f.styleMessage? = some message) :
        (Diagnostic.mk .warning "" message pos "" "" :: report (some d) advised rest).filter
          (·.isPortability d) = d.warnings rest := by
      rw [List.filter_cons_of_neg (by simp [f.isPortability_style h]), ih]
    cases f with
    | kind k =>
      have advice : (if advised.contains k then report (some d) advised rest
          else d.notes pos k ++ report (some d) (k :: advised) rest).filter (·.isPortability d) =
            d.warnings rest := by
        split
        · exact ih advised
        · rw [List.filter_append, Detector.filter_notes, ih, List.nil_append]
      rw [report, List.filter_append, Detector.filter_portability, advice]
      rfl
    | _ => exact style rfl

-- ---------------------------------------------------------------------------
-- Warnings of a program
-- ---------------------------------------------------------------------------

/-- A kind that the expression itself names is one that the target runs. -/
def Expr.NamesSupported (d : Detector) : Expr → Prop
  | .vector _ _ name | .load _ _ name => ∀ k, VectorKind.ofName? name = some k → d.isSupported k
  | _ => True

theorem Detector.warnings_ofKindName {name : String}
    (h : ∀ k, VectorKind.ofName? name = some k → d.isSupported k) :
    d.warnings (.ofKindName pos name) = [] := by
  unfold Findings.ofKindName
  cases hk : VectorKind.ofName? name with
  | none => rfl
  | some k => simp [warnings, portability, h k hk]

namespace Expr

mutual
theorem warnings_findings : (e : Expr) → e.Everywhere (NamesSupported d) →
    d.warnings e.findings = []
  | .absent, _ | .int .., _ | .float .., _ | .bool .., _ | .string .., _ | .ident .., _ => rfl
  | .binary _ _ l r, h | .lanewise _ _ l r, h | .broadcast _ _ l r, h | .dot _ l r, h
  | .store _ l r, h | .index _ l r, h => by
    rw [findings, Detector.warnings_append, warnings_findings l (h.child (by simp [children])),
      warnings_findings r (h.child (by simp [children])), List.nil_append]
  | .unary _ _ e, h | .group _ e, h | .field _ e _, h | .reduce _ _ e, h | .swizzle _ e _, h => by
    rw [findings, warnings_findings e (h.child (by simp [children]))]
  | .call _ _ args, h => by
    rw [findings, warnings_findingsOfAll args fun e he => h.child (by simp [children, he])]
  | .vector _ es _, h => by
    rw [findings, Detector.warnings_append, Detector.warnings_ofKindName h.self,
      warnings_findingsOfAll es fun e he => h.child he, List.nil_append]
  | .load _ e _, h => by
    rw [findings, Detector.warnings_append, Detector.warnings_ofKindName h.self,
      warnings_findings e (h.child (by simp [children])), List.nil_append]
theorem warnings_findingsOfAll : (es : List Expr) → (∀ e ∈ es, e.Everywhere (NamesSupported d)) →
    d.warnings (findingsOfAll es) = []
  | [], _ => rfl
  | e :: es, h => by
    rw [findingsOfAll, Detector.warnings_append, warnings_findings e (h e List.mem_cons_self),
      warnings_findingsOfAll es fun e he => h e (List.mem_cons_of_mem _ he), List.nil_append]
end

end Expr

namespace WrittenType

def kind? (a : WrittenType) : Option VectorKind := a.leafName?.bind VectorKind.ofName?

def isForeign (d : Detector) (a : WrittenType) : Bool := a.kind?.any fun k => !d.isSupported k

theorem ofName?_core (a : WrittenType) : VectorKind.ofName? a.core = a.kind? := by
  unfold core kind? leafName?
  generalize coreText (Text.trimBlanks a.name.toList) = cs
  cases cs with
  | nil => exact VectorKind.ofName?_empty
  | cons c cs => simp

end WrittenType

namespace Detector

def warningsAt (d : Detector) (a : WrittenType) : Diagnostics :=
  a.kind?.toList.flatMap (d.portability a.pos)

theorem length_warningsAt (a : WrittenType) :
    (d.warningsAt a).length = if a.isForeign d then 1 else 0 := by
  unfold warningsAt WrittenType.isForeign
  cases a.kind? with
  | none => rfl
  | some k => cases hk : d.isSupported k <;> simp [portability, hk]

theorem warnings_ofWritten (written : Option WrittenType) :
    d.warnings (.ofWritten written) = written.toList.flatMap d.warningsAt := by
  cases written with
  | none => rfl
  | some a =>
    rw [Findings.ofWritten, Findings.ofKindName, a.ofName?_core, Option.toList_some,
      List.flatMap_singleton, warningsAt]
    cases a.kind? <;> simp [warnings]

theorem warnings_ofHead (head : FnHead) (isEmpty : Bool) :
    d.warnings (.ofHead head isEmpty) = head.annotations.flatMap d.warningsAt := by
  have params : d.warnings (head.params.flatMap fun p => Findings.ofWritten p.written) =
      (head.params.filterMap (·.written)).flatMap d.warningsAt := by
    induction head.params with
    | nil => rfl
    | cons p params ih =>
      rw [List.flatMap_cons, warnings_append, warnings_ofWritten, ih, List.filterMap_cons]
      cases p.written <;> simp
  have style : d.warnings ((if isEmpty then [(head.pos, .emptyBody head.name)] else []) ++
      if isSnakeCase head.name then [] else [(head.pos, .naming head.name)]) = [] := by
    split <;> split <;> rfl
  rw [Findings.ofHead, warnings_append, warnings_append, style, params, warnings_ofWritten,
    FnHead.annotations, List.flatMap_append, List.nil_append]

theorem warnings_style {items : List α} {place : α → Pos} {finding : α → Finding}
    (h : ∀ item, (finding item).styleMessage?.isSome) :
    d.warnings (items.map fun item => (place item, finding item)) = [] := by
  induction items with
  | nil => rfl
  | cons item items ih =>
    rw [List.map_cons, ← List.singleton_append, warnings_append, ih, List.append_nil]
    have hitem := h item
    cases hf : finding item with
    | kind k =>
      rw [hf] at hitem
      cases hitem
    | _ => rfl

theorem warnings_ofBody (head : FnHead) (body : List Stmt) :
    d.warnings (.ofBody head body) = [] := by
  rw [Findings.ofBody, warnings_append, warnings_append, Findings.unusedParams,
    Findings.unusedVariables, Findings.neverReassigned, warnings_style fun _ => rfl,
    warnings_style fun _ => rfl, warnings_style fun _ => rfl]
  rfl

end Detector

namespace Stmt

mutual
/-- Where expressions give rise to no warning, the annotations are left. -/
theorem warnings_findings : (s : Stmt) → s.Everywhere (Expr.NamesSupported d) →
    d.warnings s.findings = s.annotations.flatMap d.warningsAt
  | .absent, _ => rfl
  | .fn head _ body, h => by
    rw [findings, Detector.warnings_append, Detector.warnings_append, Detector.warnings_ofHead,
      Detector.warnings_ofBody, warnings_findingsOfAll body fun n s hs path g hg =>
        h (n :: path) g (by simp [exprAt?, hs, hg]), annotations, List.flatMap_append,
      List.append_nil]
  | .prototype head, _ => by rw [findings, Detector.warnings_ofHead, annotations]
  | .letDecl _ _ _ written value, h => by
    rw [findings, Detector.warnings_append, Detector.warnings_ofWritten,
      value.warnings_findings fun path => h (0 :: path), annotations, List.append_nil]
  | .ret _ value, h | .expr _ value, h => by
    rw [findings, value.warnings_findings fun path => h (0 :: path), annotations, List.flatMap_nil]
  | .block _ body, h => by
    rw [findings, warnings_findingsOfAll body fun n s hs path g hg =>
      h (n :: path) g (by simp [exprAt?, hs, hg]), annotations]
  | .ifElse _ condition yes no, h => by
    rw [findings, Detector.warnings_append, Detector.warnings_append,
      condition.warnings_findings fun path => h (0 :: path),
      yes.warnings_findings fun path => h (1 :: path),
      no.warnings_findings fun path => h (2 :: path), annotations, List.flatMap_append,
      List.nil_append]
  | .whileLoop _ condition body, h => by
    rw [findings, Detector.warnings_append, condition.warnings_findings fun path => h (0 :: path),
      body.warnings_findings fun path => h (1 :: path), annotations, List.nil_append]
  | .forLoop _ init condition step body, h => by
    rw [findings, Detector.warnings_append, Detector.warnings_append, Detector.warnings_append,
      init.warnings_findings fun path => h (0 :: path),
      condition.warnings_findings fun path => h (1 :: path),
      step.warnings_findings fun path => h (2 :: path),
      body.warnings_findings fun path => h (3 :: path), annotations, List.flatMap_append,
      List.append_nil, List.append_nil]
theorem warnings_findingsOfAll : (body : List Stmt) →
    (∀ (n : Nat) (s : Stmt), body[n]? = some s → s.Everywhere (Expr.NamesSupported d)) →
    d.warnings (findingsOfAll body) = (annotationsIn body).flatMap d.warningsAt
  | [], _ => rfl
  | s :: rest, h => by
    rw [findingsOfAll, Detector.warnings_append, s.warnings_findings (h 0 s rfl),
      warnings_findingsOfAll rest fun n => h (n + 1), annotationsIn, List.flatMap_append]
end

end Stmt

theorem Program.namesSupported {p : Program} (h : p.check o = .ok c) (path : Path) (e : Expr)
    (he : p.exprAt? path = some e) : e.NamesSupported o.detector := by
  cases e with
  | vector pos es name =>
    obtain ⟨_, _, _, hrule⟩ := program_ruled h he nofun
    intro k hk
    cases hrule with
    | writtenVector _ hk' _ hd _ => exact Option.some.inj (hk'.symm.trans hk) ▸ hd
    | inferredVector => cases VectorKind.ofName?_empty.symm.trans hk
  | load pos e name =>
    obtain ⟨_, _, _, hrule⟩ := program_ruled h he nofun
    intro k hk
    cases hrule with
    | writtenLoad _ hk' hd => exact Option.some.inj (hk'.symm.trans hk) ▸ hd
    | inferredLoad => cases VectorKind.ofName?_empty.symm.trans hk
  | _ => trivial

end

/-- Linting an accepted program, no expression of it gives rise to a warning about a kind. The
warnings there are belong to its annotations in their order, one to each that names a kind the
target does not run. -/
theorem lint_portability (o : CheckOptions) (p : Program) (c : Checker) (h : p.check o = .ok c) :
    let warnings := (p.lint (some o.detector)).filter (·.isPortability o.detector)
    (∀ path e advised, p.exprAt? path = some e →
      (Findings.report (some o.detector) advised e.findings).filter
        (·.isPortability o.detector) = []) ∧
    warnings = (Stmt.annotationsIn p.statements).flatMap o.detector.warningsAt ∧
    warnings.length = (Stmt.annotationsIn p.statements).countP (·.isForeign o.detector) := by
  have everywhere (n : Nat) (s : Stmt) (hs : p.statements[n]? = some s) :
      s.Everywhere (Expr.NamesSupported o.detector) := by
    intro path g hg
    refine p.namesSupported h (n :: path) g ?_
    rw [Program.exprAt?, hs, Option.bind_some, hg]
  have all : (p.lint (some o.detector)).filter (·.isPortability o.detector) = _ :=
    (Findings.filter_report _ _).trans (Stmt.warnings_findingsOfAll p.statements everywhere)
  refine ⟨fun path e advised he => ?_, all, ?_⟩
  · cases path with
    | nil => cases he
    | cons n path =>
      obtain ⟨s, hs, he⟩ := Option.bind_eq_some_iff.mp he
      rw [Findings.filter_report, e.warnings_findings ((everywhere n s hs).below he)]
  · rw [all]
    induction Stmt.annotationsIn p.statements with
    | nil => rfl
    | cons a rest ih =>
      rw [List.flatMap_cons, List.length_append, ih, Detector.length_warningsAt, List.countP_cons,
        Nat.add_comm]

/-- A literal of a kind that every x86-64 processor runs, and annotations with one that only some
run, the second of them on a function inside another. -/
def wideAnnotations : Program where
  name := "wide"
  statements := [
    .fn ⟨default, "outer", [⟨"v", some ⟨"&mut [ F32x8 ]", false, default⟩, default⟩], none⟩
      default [
      .prototype ⟨default, "inner", [], some ⟨"f32x8", false, default⟩⟩,
      .letDecl default "x" false (some ⟨"i64x2", false, default⟩)
        (.vector default [.int default 1, .int default 2] "i64x2")]]

theorem lint_portability_wideAnnotations :
    ((wideAnnotations.lint (some (.baseline .x86_64))).filter
      (·.isPortability (.baseline .x86_64))).length = 2 := by
  have accepted : (wideAnnotations.check { detector := .baseline .x86_64 }).toBool = true := by
    decide +kernel
  cases hc : wideAnnotations.check { detector := .baseline .x86_64 } with
  | error e =>
    rw [hc] at accepted
    cases accepted
  | ok c =>
    rw [(lint_portability { detector := .baseline .x86_64 } wideAnnotations c hc).2.2]
    decide +kernel

end Lanewise
