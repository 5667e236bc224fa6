import Lanewise.Proofs.Lint.Portability
import Lanewise.Proofs.Lint.Style
import Lanewise.Proofs.Lint.Walk

/-!
# Where a program names vector kinds

`lint_kindUses`: each use of a kind that the target does not run is a warning, and the advice on a
kind is given once, where the program names it first. The walk that finds the uses passes by the
callees of calls. In an accepted program a callee is a bare name, so no use is missed there.
-/

namespace Lanewise

open ProgramNode

-- ---------------------------------------------------------------------------
-- Uses
-- ---------------------------------------------------------------------------

/-- A vector kind that a program names: at which node, at which of the names of that node and at
which position. -/
structure KindUse where
  place : Path
  number : Nat
  kind : VectorKind
  pos : Pos

def kindNamed (name : Pos × String) : Option (Pos × VectorKind) :=
  (VectorKind.ofName? name.2).map (name.1, ·)

def WrittenType.innermostName (a : WrittenType) : Pos × String := (a.pos, a.core)

def Expr.kindName? : Expr → Option (Pos × String)
  | .vector pos _ name | .load pos _ name => some (pos, name)
  | _ => none

namespace ProgramNode

/-- The names in a node itself that can be those of vector kinds: the innermost names of its
annotations, or the one at a literal or a load. -/
def kindNames : ProgramNode → List (Pos × String)
  | .stmt (.fn head ..) | .stmt (.prototype head) => head.annotations.map (·.innermostName)
  | .stmt (.letDecl _ _ _ written _) => written.toList.map (·.innermostName)
  | .stmt _ => []
  | .expr e => e.kindName?.toList

def kindsHere (m : ProgramNode) : List (Pos × VectorKind) := m.kindNames.filterMap kindNamed

def usesHere (v : Path × ProgramNode) : List KindUse :=
  v.2.kindNames.zipIdx.filterMap fun (name, number) =>
    (kindNamed name).map fun (pos, kind) => { place := v.1, number, kind, pos }

/-- The walk passes by the callees of calls, which come before the arguments. -/
def entersNoCallee : ProgramNode → Nat → Bool
  | .expr (.call ..), i => i != 0
  | _, _ => true

end ProgramNode

namespace Program

def kindUses (p : Program) : List KindUse := (p.node.visits entersNoCallee).flatMap usesHere

def NamesKind (p : Program) (u : KindUse) : Prop :=
  ∃ m name, p.node.at? u.place = some m ∧ m.kindNames[u.number]? = some (u.pos, name) ∧
    VectorKind.ofName? name = some u.kind

end Program

-- ---------------------------------------------------------------------------
-- Findings about kinds
-- ---------------------------------------------------------------------------

namespace Findings

def kinds (findings : Findings) : List (Pos × VectorKind) :=
  findings.filterMap fun
    | (pos, .kind k) => some (pos, k)
    | _ => none

theorem kinds_append (fs gs : Findings) : kinds (fs ++ gs) = fs.kinds ++ gs.kinds :=
  List.filterMap_append

theorem kinds_ofKindName (pos : Pos) (name : String) :
    (ofKindName pos name).kinds = [(pos, name)].filterMap kindNamed := by
  unfold ofKindName
  cases h : VectorKind.ofName? name <;> simp [kinds, kindNamed, h]

theorem kinds_ofWritten (written : Option WrittenType) :
    (ofWritten written).kinds = (written.toList.map (·.innermostName)).filterMap kindNamed := by
  cases written with
  | none => rfl
  | some a => exact kinds_ofKindName a.pos a.core

theorem kinds_ofHead (head : FnHead) (isEmpty : Bool) :
    (ofHead head isEmpty).kinds =
      (head.annotations.map (·.innermostName)).filterMap kindNamed := by
  have style : kinds ((if isEmpty then [(head.pos, .emptyBody head.name)] else []) ++
      if isSnakeCase head.name then [] else [(head.pos, .naming head.name)]) = [] := by
    split <;> split <;> rfl
  have params : kinds (head.params.flatMap fun p => ofWritten p.written) =
      ((head.params.filterMap (·.written)).map (·.innermostName)).filterMap kindNamed := by
    induction head.params with
    | nil => rfl
    | cons p rest ih =>
      rw [List.flatMap_cons, kinds_append, kinds_ofWritten, ih, List.filterMap_cons]
      cases p.written with
      | none => rfl
      | some a =>
        rw [Option.toList_some, ← List.filterMap_append, ← List.map_append, List.singleton_append]
  rw [ofHead, kinds_append, kinds_append, style, params, kinds_ofWritten, FnHead.annotations,
    List.map_append, List.filterMap_append, List.nil_append]

theorem kinds_ofBody (head : FnHead) (body : List Stmt) : (ofBody head body).kinds = [] := by
  simp [ofBody, unusedParams, unusedVariables, neverReassigned, kinds]

end Findings

open Findings

namespace Expr

mutual
theorem kinds_findings : (e : Expr) →
    e.findings.kinds = (ProgramNode.expr e).gather entersNoCallee kindsHere
  | .absent | .int .. | .float .. | .bool .. | .string .. | .ident .. => by
    rw [gather_all fun _ => rfl]
    rfl
  | .binary _ _ l r | .lanewise _ _ l r | .broadcast _ _ l r | .dot _ l r | .store _ l r
  | .index _ l r => by
    rw [gather_all fun _ => rfl, findings, kinds_append, kinds_findings l, kinds_findings r]
    simp [kindsHere, kindNames, kindName?, ProgramNode.children, children]
  | .unary _ _ e | .group _ e | .field _ e _ | .reduce _ _ e | .swizzle _ e _ => by
    rw [gather_all fun _ => rfl, findings, kinds_findings e]
    simp [kindsHere, kindNames, kindName?, ProgramNode.children, children]
  | .call _ _ args => by
    rw [gather_tail rfl fun _ => rfl, findings, kinds_findingsOfAll args]
    rfl
  | .vector _ es _ => by
    rw [gather_all fun _ => rfl, findings, kinds_append, kinds_ofKindName,
      kinds_findingsOfAll es]
    rfl
  | .load _ e _ => by
    rw [gather_all fun _ => rfl, findings, kinds_append, kinds_ofKindName, kinds_findings e]
    simp [kindsHere, kindNames, kindName?, ProgramNode.children, children]
theorem kinds_findingsOfAll : (es : List Expr) →
    kinds (findingsOfAll es) = (es.map ProgramNode.expr).flatMap (·.gather entersNoCallee kindsHere)
  | [] => rfl
  | e :: es => by
    rw [findingsOfAll, kinds_append, kinds_findings e, kinds_findingsOfAll es, List.map_cons,
      List.flatMap_cons]
end

end Expr

namespace Stmt

mutual
theorem kinds_findings : (s : Stmt) →
    s.findings.kinds = (ProgramNode.stmt s).gather entersNoCallee kindsHere
  | .absent => by
    rw [gather_all fun _ => rfl]
    rfl
  | .fn head _ body => by
    rw [gather_all fun _ => rfl, findings, kinds_append, kinds_append, kinds_ofHead, kinds_ofBody,
      List.append_nil, kinds_findingsOfAll body]
    rfl
  | .prototype head => by
    rw [gather_all fun _ => rfl, findings, kinds_ofHead]
    simp [kindsHere, kindNames, ProgramNode.children]
  | .letDecl _ _ _ written value => by
    rw [gather_all fun _ => rfl, findings, kinds_append, kinds_ofWritten, value.kinds_findings]
    simp [kindsHere, kindNames, ProgramNode.children]
  | .ret _ value | .expr _ value => by
    rw [gather_all fun _ => rfl, findings, value.kinds_findings]
    simp [kindsHere, kindNames, ProgramNode.children]
  | .block _ body => by
    rw [gather_all fun _ => rfl, findings, kinds_findingsOfAll body]
    rfl
  | .ifElse _ condition yes no => by
    rw [gather_all fun _ => rfl, findings, kinds_append, kinds_append, condition.kinds_findings,
      kinds_findings yes, kinds_findings no]
    simp [kindsHere, kindNames, ProgramNode.children]
  | .whileLoop _ condition body => by
    rw [gather_all fun _ => rfl, findings, kinds_append, condition.kinds_findings,
      kinds_findings body]
    simp [kindsHere, kindNames, ProgramNode.children]
  | .forLoop _ init condition step body => by
    rw [gather_all fun _ => rfl, findings, kinds_append, kinds_append, kinds_append,
      kinds_findings init, condition.kinds_findings, step.kinds_findings, kinds_findings body]
    simp [kindsHere, kindNames, ProgramNode.children]
theorem kinds_findingsOfAll : (body : List Stmt) →
    kinds (findingsOfAll body) =
      (body.map ProgramNode.stmt).flatMap (·.gather entersNoCallee kindsHere)
  | [] => rfl
  | s :: rest => by
    rw [findingsOfAll, kinds_append, kinds_findings s, kinds_findingsOfAll rest, List.map_cons,
      List.flatMap_cons]
end

end Stmt

theorem ProgramNode.map_usesHere (v : Path × ProgramNode) :
    (usesHere v).map (fun u => (u.pos, u.kind)) = v.2.kindsHere := by
  have numbered :
      v.2.kindNames.zipIdx.filterMap (fun name => kindNamed name.1) = v.2.kindsHere := by
    rw [kindsHere, ← Function.comp_def kindNamed Prod.fst, ← List.filterMap_map,
      List.zipIdx_map_fst]
  rw [← numbered, usesHere, List.map_filterMap]
  refine List.filterMap_congr fun (name, number) _ => ?_
  dsimp only
  cases kindNamed name <;> rfl

theorem ProgramNode.place_of_mem_usesHere (h : u ∈ usesHere v) : u.place = v.1 := by
  obtain ⟨name, -, hu⟩ := List.mem_filterMap.mp h
  obtain ⟨kind, -, rfl⟩ := Option.map_eq_some_iff.mp hu
  rfl

theorem Program.map_kindUses (p : Program) :
    p.kindUses.map (fun u => (u.pos, u.kind)) = (Stmt.findingsOfAll p.statements).kinds := by
  calc p.kindUses.map (fun u => (u.pos, u.kind))
      = p.node.gather entersNoCallee kindsHere := by
        simp only [kindUses, List.map_flatMap, map_usesHere, gather]
    _ = (Stmt.findingsOfAll p.statements).kinds := by
        rw [node, ofStmts, ← Stmt.kinds_findings, Stmt.findings]

-- ---------------------------------------------------------------------------
-- The report
-- ---------------------------------------------------------------------------

def firstOfEach (kind : α → VectorKind) : List α → List α
  | [] => []
  | a :: rest => a :: (firstOfEach kind rest).filter (kind · != kind a)

section
variable {kind : α → VectorKind}

theorem firstOfEach_sublist (items : List α) : (firstOfEach kind items).Sublist items := by
  induction items with
  | nil => exact .slnil
  | cons a rest ih => exact .cons_cons a (List.filter_sublist.trans ih)

theorem nodup_firstOfEach (items : List α) : ((firstOfEach kind items).map kind).Nodup := by
  induction items with
  | nil => exact .nil
  | cons a rest ih =>
    rw [firstOfEach, List.map_cons, List.nodup_cons]
    exact ⟨by simp, ih.sublist (List.filter_sublist.map kind)⟩

theorem mem_firstOfEach {items : List α} :
    a ∈ firstOfEach kind items ↔ items.find? (kind · == kind a) = some a := by
  induction items with
  | nil => simp [firstOfEach]
  | cons b rest ih =>
    rw [firstOfEach, List.mem_cons, List.mem_filter, ih, List.find?_cons]
    by_cases h : kind b = kind a
    · simp [h, eq_comm]
    · have hne : a ≠ b := fun hab => h (by rw [hab])
      have hskip : (kind b == kind a) = false := by simpa using h
      simp [hskip, hne, Ne.symm h]

theorem firstOfEach_map (g : β → α) (items : List β) :
    firstOfEach kind (items.map g) = (firstOfEach (fun b => kind (g b)) items).map g := by
  induction items with
  | nil => rfl
  | cons b rest ih =>
    rw [List.map_cons, firstOfEach, ih, List.filter_map]
    rfl

end

section
variable {d : Detector}

theorem Detector.warnings_eq (findings : Findings) :
    d.warnings findings = findings.kinds.flatMap fun u => d.portability u.1 u.2 := by
  induction findings with
  | nil => rfl
  | cons found rest ih =>
    obtain ⟨pos, f⟩ := found
    cases f with
    | kind k => exact congrArg (d.portability pos k ++ ·) ih
    | _ => exact ih

/-- The notes of a report are those on the kinds that nothing was said about yet, each where it is
named first. -/
theorem Findings.filter_info_report (findings : Findings) (advised : List VectorKind) :
    (report (some d) advised findings).filter (·.severity == .info) =
      ((firstOfEach Prod.snd findings.kinds).filter (!advised.contains ·.2)).flatMap fun u =>
        d.notes u.1 u.2 := by
  induction findings generalizing advised with
  | nil => rfl
  | cons found rest ih =>
    obtain ⟨pos, f⟩ := found
    cases f with
    | kind k =>
      have warnings : (d.portability pos k).filter (·.severity == .info) = [] := by
        rw [List.filter_eq_nil_iff]
        intro w hw
        obtain ⟨-, rfl⟩ := Detector.mem_portability.mp hw
        nofun
      have notes : (d.notes pos k).filter (·.severity == .info) = d.notes pos k := by
        rw [List.filter_eq_self]
        intro w hw
        rw [Detector.severity_of_mem_notes hw]
        rfl
      have first : firstOfEach Prod.snd (kinds ((pos, .kind k) :: rest)) =
          (pos, k) :: (firstOfEach Prod.snd (kinds rest)).filter (·.2 != k) := rfl
      rw [report, List.filter_append, warnings, List.nil_append, first]
      split
      case isTrue hadvised =>
        have hk : k ∈ advised := by simpa using hadvised
        rw [ih, List.filter_cons_of_neg (by simpa using hk), List.filter_filter]
        congr 1
        refine List.filter_congr fun u _ => ?_
        by_cases hu : u.2 = k
        · simp [hu, hk]
        · simp [hu]
      case isFalse hadvised =>
        have hk : k ∉ advised := by simpa using hadvised
        rw [List.filter_append, notes, ih, List.filter_cons_of_pos (by simpa using hk),
          List.flatMap_cons, List.filter_filter]
        congr 2
        refine List.filter_congr fun u _ => ?_
        by_cases hu : u.2 = k <;> simp [hu]
    | _ => exact ih advised

end

-- ---------------------------------------------------------------------------
-- Accepted programs
-- ---------------------------------------------------------------------------

namespace Program

variable {p : Program}

theorem mem_kindUses {u : KindUse} :
    u ∈ p.kindUses ↔ p.NamesKind u ∧ p.node.InSight entersNoCallee u.place := by
  simp only [kindUses, usesHere, kindNamed, NamesKind, List.mem_flatMap, List.mem_filterMap,
    Prod.exists, List.mem_zipIdx_iff_getElem?, mem_visits, Option.map_eq_some_iff]
  constructor
  · rintro ⟨place, m, ⟨hm, hsight⟩, pos, name, number, hname, _, _, ⟨k, hk, ⟨⟩⟩, rfl⟩
    exact ⟨⟨m, name, hm, hname, hk⟩, hsight⟩
  · rintro ⟨⟨m, name, hm, hname, hk⟩, hsight⟩
    exact ⟨u.place, m, ⟨hm, hsight⟩, u.pos, name, u.number, hname, _, _, ⟨u.kind, hk, rfl⟩, rfl⟩

theorem nodup_kindUses (p : Program) : (p.kindUses.map fun u => (u.place, u.number)).Nodup := by
  refine nodup_keys (nodup_visits entersNoCallee p.node) (fun v _ => ?_) ?_
  · have numbered := List.pairwise_map.mp (List.nodup_zipIdx_map_snd v.2.kindNames)
    rw [usesHere, List.map_filterMap]
    refine numbered.filterMap _ fun a b hne u hu w hw => ?_
    simp only [Option.map_map, Option.map_eq_some_iff, Function.comp_apply] at hu hw
    obtain ⟨-, -, rfl⟩ := hu
    obtain ⟨-, -, rfl⟩ := hw
    exact fun heq => hne (Prod.mk.inj heq).2
  · intro v _ w _ x hx y hy heq
    rw [← place_of_mem_usesHere hx, ← place_of_mem_usesHere hy]
    exact (Prod.mk.inj heq).1

theorem callee_of_check (h : p.check o = .ok c)
    (hcall : p.node.at? path = some (.expr (.call q f args))) : f.name?.isSome = true := by
  obtain ⟨_, _, _, hrule⟩ := program_ruled h (at?_node_eq_some.mp hcall) nofun
  cases hrule
  rfl

theorem inSight_of_check (h : p.check o = .ok c) (hm : p.node.at? place = some m)
    (hnames : m.kindNames ≠ []) : p.node.InSight entersNoCallee place := by
  intro before i after n hplace hn
  unfold entersNoCallee
  split
  · rename_i q f args
    by_contra hpassed
    obtain rfl : i = 0 := by simpa using hpassed
    have hf := callee_of_check h hn
    rw [hplace, at?_append, hn] at hm
    have hm : (ProgramNode.expr f).at? after = some m := hm
    obtain rfl := at?_name hf hm
    cases f with
    | ident =>
      cases hm
      exact hnames rfl
    | _ => cases hf
  · rfl

theorem mem_kindUses_of_check {u : KindUse} (h : p.check o = .ok c) :
    u ∈ p.kindUses ↔ p.NamesKind u := by
  rw [mem_kindUses, and_iff_left_iff_imp]
  rintro ⟨m, name, hm, hname, -⟩
  refine inSight_of_check h hm fun hnone => ?_
  rw [hnone] at hname
  cases hname

theorem named_of_check {name : String} (h : p.check o = .ok c)
    (he : p.node.at? path = some (.expr e)) (hname : e.kindName? = some (q, name))
    (hne : name ≠ "") : ∃ k, VectorKind.ofName? name = some k ∧ ⟨path, 0, k, q⟩ ∈ p.kindUses := by
  have spelled : ∃ k, VectorKind.ofName? name = some k := by
    obtain ⟨_, _, _, hrule⟩ :=
      program_ruled h (at?_node_eq_some.mp he) (by rintro rfl; cases hname)
    cases hrule with
    | writtenVector _ hk | writtenLoad _ hk =>
      cases hname
      exact ⟨_, hk⟩
    | inferredVector | inferredLoad =>
      cases hname
      exact (hne rfl).elim
    | _ => cases hname
  obtain ⟨k, hk⟩ := spelled
  refine ⟨k, hk, (mem_kindUses_of_check h).mpr ⟨_, name, he, ?_, hk⟩⟩
  rw [kindNames, hname]
  rfl

end Program

/-- Linting gives one warning for each use of a kind that the target does not run, in the order of
the walk. It gives the advice on a kind where the walk comes to it first, and nowhere else. In a
program that is accepted, for whatever target, the walk comes to every use once, and every name at a
literal or a load is a use. -/
theorem lint_kindUses (p : Program) (d : Detector) :
    (p.lint (some d)).filter (·.isPortability d) =
      (p.kindUses.filter (!d.isSupported ·.kind)).map (fun u => {
        severity := .warning
        message := "vector type " ++ u.kind.text ++ " is not native on target " ++ d.name
        pos := u.pos
        hint := d.explain u.kind }) ∧
    (∃ firsts : List KindUse, firsts.Sublist p.kindUses ∧ (firsts.map (·.kind)).Nodup ∧
      (∀ u, u ∈ firsts ↔ p.kindUses.find? (·.kind == u.kind) = some u) ∧
      (p.lint (some d)).filter (·.severity == .info) = firsts.flatMap fun u =>
        (d.recommendations u.kind).map fun note => {
          severity := .info, message := u.kind.text ++ ": " ++ note, pos := u.pos }) ∧
    ∀ o c, p.check o = .ok c →
      (p.kindUses.map fun u => (u.place, u.number)).Nodup ∧
      (∀ u, u ∈ p.kindUses ↔ p.NamesKind u) ∧
      ∀ place e pos name, p.node.at? place = some (.expr e) → e.kindName? = some (pos, name) →
        name ≠ "" → ∃ k, VectorKind.ofName? name = some k ∧ ⟨place, 0, k, pos⟩ ∈ p.kindUses := by
  refine ⟨?_, ⟨firstOfEach (·.kind) p.kindUses, firstOfEach_sublist _, nodup_firstOfEach _,
    fun _ => mem_firstOfEach, ?_⟩, fun o c h => ⟨p.nodup_kindUses,
      fun _ => Program.mem_kindUses_of_check h, fun _ _ _ _ => Program.named_of_check h⟩⟩
  · rw [Program.lint, filter_report, Detector.warnings_eq, ← p.map_kindUses, List.flatMap_map]
    induction p.kindUses with
    | nil => rfl
    | cons u rest ih =>
      rw [List.flatMap_cons, ih, List.filter_cons, Detector.portability]
      cases d.isSupported u.kind <;> rfl
  · have unadvised : (firstOfEach Prod.snd (p.kindUses.map fun u => (u.pos, u.kind))).filter
        (fun u => !List.contains [] u.2) =
          firstOfEach Prod.snd (p.kindUses.map fun u => (u.pos, u.kind)) :=
      List.filter_eq_self.mpr fun _ _ => rfl
    rw [Program.lint, filter_info_report, ← p.map_kindUses, unadvised, firstOfEach_map,
      List.flatMap_map]
    rfl

theorem lint_kindUses_wideAnnotations :
    ⟨[0], 0, .f32x8, default⟩ ∈ wideAnnotations.kindUses ∧
      ⟨[0, 1, 0], 0, .i64x2, default⟩ ∈ wideAnnotations.kindUses := by
  have accepted : (wideAnnotations.check { detector := .baseline .x86_64 }).toBool = true := by
    decide +kernel
  cases hc : wideAnnotations.check { detector := .baseline .x86_64 } with
  | error e =>
    rw [hc] at accepted
    cases accepted
  | ok c =>
    obtain ⟨-, named, -⟩ := (lint_kindUses wideAnnotations (.baseline .x86_64)).2.2 _ c hc
    exact ⟨(named _).mpr ⟨_, _, rfl, rfl, by decide +kernel⟩,
      (named _).mpr ⟨_, _, rfl, rfl, by decide +kernel⟩⟩

end Lanewise
