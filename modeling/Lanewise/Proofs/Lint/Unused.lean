import Lanewise.Proofs.Lint.Bodies
import Lanewise.Proofs.Lint.Read

/-!
# Names that nothing reads

`lint_unused`: a variable or parameter of a function is reported, once, exactly if its name is not
meant to be unused and nothing in the body of that function reads it, functions inside the body
included.
-/

namespace Lanewise

open ProgramNode

-- ---------------------------------------------------------------------------
-- Functions and declarations
-- ---------------------------------------------------------------------------

namespace ProgramNode

def entersAll : ProgramNode → Nat → Bool := fun _ _ => true

def entersNoFunction : ProgramNode → Nat → Bool
  | .stmt (.fn ..), _ => false
  | _, _ => true

def functionHere : ProgramNode → List (FnHead × List Stmt)
  | .stmt (.fn head _ body) => [(head, body)]
  | _ => []

def letHere : ProgramNode → List Declared
  | .stmt (.letDecl pos name isMut _ _) => [{ name, isMut, pos }]
  | _ => []

@[simp] theorem gather_functionHere (e : Expr) : (expr e).gather entersAll functionHere = [] :=
  gather_expr (fun _ => rfl) e

@[simp] theorem gather_letHere (e : Expr) : (expr e).gather entersNoFunction letHere = [] :=
  gather_expr (fun _ => rfl) e

theorem mem_functionHere {m : ProgramNode} :
    f ∈ m.functionHere ↔ ∃ bodyPos, m = .stmt (.fn f.1 bodyPos f.2) := by
  obtain ⟨head, body⟩ := f
  cases m with
  | expr e => simp [functionHere]
  | stmt s => cases s <;> simp [functionHere, eq_comm]

theorem functionHere_cases (m : ProgramNode) : m.functionHere = [] ∨ ∃ f, m.functionHere = [f] := by
  unfold functionHere
  split
  · exact .inr ⟨_, rfl⟩
  · exact .inl rfl

theorem letHere_cases (m : ProgramNode) : m.letHere = [] ∨ ∃ v, m.letHere = [v] := by
  unfold letHere
  split
  · exact .inr ⟨_, rfl⟩
  · exact .inl rfl

theorem mem_letHere {m : ProgramNode} :
    v ∈ m.letHere ↔ ∃ written value, m = .stmt (.letDecl v.pos v.name v.isMut written value) := by
  obtain ⟨name, isMut, pos⟩ := v
  cases m with
  | expr e => simp [letHere]
  | stmt s =>
    cases s <;> simp [letHere, eq_comm]
    grind

theorem inSight_entersAll (n : ProgramNode) (path : Path) : n.InSight entersAll path :=
  fun _ _ _ _ _ _ => rfl

theorem entersNoFunction_eq_false {m : ProgramNode} :
    entersNoFunction m i = false ↔ ∃ head bodyPos body, m = .stmt (.fn head bodyPos body) := by
  cases m with
  | expr e => simp [entersNoFunction]
  | stmt s => cases s <;> simp [entersNoFunction]

/-- The walk that stays inside comes to a declaration if no function is on its way. -/
theorem inSight_entersNoFunction {n : ProgramNode} (h : n.at? path = some m) (hm : v ∈ m.letHere) :
    n.InSight entersNoFunction path ↔
      ∀ between, between <+: path → ∀ head bodyPos body,
        n.at? between ≠ some (.stmt (.fn head bodyPos body)) := by
  constructor
  · rintro hsight between ⟨rest, rfl⟩ head bodyPos body hfn
    cases rest with
    | nil =>
      rw [List.append_nil, hfn] at h
      cases h
      cases hm
    | cons i after => cases hsight between i after _ rfl hfn
  · intro hfree before i after m hpath hat
    by_contra hno
    obtain ⟨head, bodyPos, body, rfl⟩ := entersNoFunction_eq_false.mp (Bool.not_eq_true _ ▸ hno)
    exact hfree before ⟨i :: after, hpath.symm⟩ head bodyPos body hat

theorem at?_fn (h : path ≠ []) : (stmt (.fn head bodyPos statements)).at? path =
    (ofStmts statements).at? path := by
  cases path with
  | nil => exact (h rfl).elim
  | cons i path => rfl

end ProgramNode

namespace Stmt

mutual
theorem functions_eq : (s : Stmt) → s.functions = (ProgramNode.stmt s).gather entersAll functionHere
  | .absent | .prototype _ => by
    rw [gather_all fun _ => rfl]
    rfl
  | .fn head _ body | .block _ body => by
    rw [gather_all fun _ => rfl, functions, functionsIn_eq body]
    rfl
  | .letDecl _ _ _ _ value | .ret _ value | .expr _ value => by
    rw [gather_all fun _ => rfl, functions]
    simp [functionHere, ProgramNode.children]
  | .ifElse _ condition yes no => by
    rw [gather_all fun _ => rfl, functions, functions_eq yes, functions_eq no]
    simp [functionHere, ProgramNode.children]
  | .whileLoop _ condition body => by
    rw [gather_all fun _ => rfl, functions, functions_eq body]
    simp [functionHere, ProgramNode.children]
  | .forLoop _ init condition step body => by
    rw [gather_all fun _ => rfl, functions, functions_eq init, functions_eq body]
    simp [functionHere, ProgramNode.children]
theorem functionsIn_eq : (body : List Stmt) →
    functionsIn body = (body.map ProgramNode.stmt).flatMap (·.gather entersAll functionHere)
  | [] => rfl
  | s :: rest => by
    rw [functionsIn, functions_eq s, functionsIn_eq rest, List.map_cons, List.flatMap_cons]
end

mutual
theorem declares_eq : (s : Stmt) → s.declares = (ProgramNode.stmt s).gather entersNoFunction letHere
  | .fn .. => by
    rw [gather_none fun _ => rfl]
    rfl
  | .absent | .prototype _ => by
    rw [gather_all fun _ => rfl]
    rfl
  | .block _ body => by
    rw [gather_all fun _ => rfl, declares, declaresOfAll_eq body]
    rfl
  | .letDecl _ _ _ _ value | .ret _ value | .expr _ value => by
    rw [gather_all fun _ => rfl]
    simp [declares, letHere, ProgramNode.children]
  | .ifElse _ condition yes no => by
    rw [gather_all fun _ => rfl, declares, declares_eq yes, declares_eq no]
    simp [letHere, ProgramNode.children]
  | .whileLoop _ condition body => by
    rw [gather_all fun _ => rfl, declares, declares_eq body]
    simp [letHere, ProgramNode.children]
  | .forLoop _ init condition step body => by
    rw [gather_all fun _ => rfl, declares, declares_eq init, declares_eq body]
    simp [letHere, ProgramNode.children]
theorem declaresOfAll_eq : (body : List Stmt) →
    declaresOfAll body = (body.map ProgramNode.stmt).flatMap (·.gather entersNoFunction letHere)
  | [] => rfl
  | s :: rest => by
    rw [declaresOfAll, declares_eq s, declaresOfAll_eq rest, List.map_cons, List.flatMap_cons]
end

end Stmt

namespace Program

/-- The way from the first place on along the second path meets no function. -/
def MeetsNoFunction (p : Program) (outer inner : Path) : Prop :=
  ∀ between, between ≠ [] → between <+: inner → ∀ head bodyPos body,
    p.node.at? (outer ++ between) ≠ some (.stmt (.fn head bodyPos body))

/-- The variable is declared at the place, and the innermost function around it has the body. -/
def DeclaredIn (p : Program) (place : Path) (v : Declared) (body : List Stmt) : Prop :=
  ∃ outer inner head bodyPos written value,
    place = outer ++ inner ∧
    p.node.at? outer = some (.stmt (.fn head bodyPos body)) ∧
    p.node.at? place = some (.stmt (.letDecl v.pos v.name v.isMut written value)) ∧
    p.MeetsNoFunction outer inner

end Program

namespace ProgramNode

def letsHere (outer : Path × ProgramNode) : List (Path × Declared × List Stmt) :=
  outer.2.functionHere.flatMap fun f =>
    ((ofStmts f.2).visits entersNoFunction).flatMap fun inner =>
      inner.2.letHere.map fun v => (outer.1 ++ inner.1, v, f.2)

def paramsHere (outer : Path × ProgramNode) : List ((Path × Nat) × Param × FnHead × List Stmt) :=
  outer.2.functionHere.flatMap fun f =>
    f.1.params.zipIdx.map fun param => ((outer.1, param.2), param.1, f)

end ProgramNode

namespace Program

def lets (p : Program) : List (Path × Declared × List Stmt) :=
  (p.node.visits entersAll).flatMap letsHere

def params (p : Program) : List ((Path × Nat) × Param × FnHead × List Stmt) :=
  (p.node.visits entersAll).flatMap paramsHere

section
variable {p : Program}

theorem functions_eq (p : Program) : p.functions = p.node.gather entersAll functionHere := by
  rw [functions, node, ofStmts, ← Stmt.functions_eq, Stmt.functions]

theorem map_snd_lets (p : Program) : p.lets.map Prod.snd =
    p.functions.flatMap fun f => (Stmt.declaresOfAll f.2).map fun v => (v, f.2) := by
  have declared (body : List Stmt) :
      Stmt.declaresOfAll body = (ofStmts body).gather entersNoFunction letHere := by
    rw [ofStmts, ← Stmt.declares_eq, Stmt.declares]
  simp only [lets, letsHere, functions_eq, gather, declared, List.map_flatMap, List.flatMap_assoc,
    List.map_map, Function.comp_def]

theorem map_snd_params (p : Program) : p.params.map Prod.snd =
    p.functions.flatMap fun f => f.1.params.map fun param => (param, f) := by
  have numbered (f : FnHead × List Stmt) : f.1.params.map (fun param => (param, f)) =
      f.1.params.zipIdx.map fun param => (param.1, f) := by
    rw [← Function.comp_def (fun param => (param, f)) Prod.fst, ← List.map_map,
      List.zipIdx_map_fst]
  simp only [params, paramsHere, functions_eq, gather, numbered, List.map_flatMap,
    List.flatMap_assoc, List.map_map, Function.comp_def]

theorem mem_letsHere (hf : p.node.at? outer = some f) :
    (place, v, body) ∈ letsHere (outer, f) ↔ ∃ inner head bodyPos written value,
      place = outer ++ inner ∧ f = .stmt (.fn head bodyPos body) ∧
      p.node.at? place = some (.stmt (.letDecl v.pos v.name v.isMut written value)) ∧
      p.MeetsNoFunction outer inner := by
  simp only [letsHere, List.mem_flatMap, List.mem_map, Prod.exists, mem_visits, mem_functionHere,
    Prod.mk.injEq]
  constructor
  · rintro ⟨head, _, ⟨bodyPos, rfl⟩, inner, m, ⟨hm, hsight⟩, _, hv, rfl, rfl, rfl⟩
    obtain ⟨written, value, rfl⟩ := mem_letHere.mp hv
    have hne : inner ≠ [] := by
      rintro rfl
      cases hm
    have hfree := (inSight_entersNoFunction hm hv).mp hsight
    refine ⟨inner, head, bodyPos, written, value, rfl, rfl, ?_, fun between hbetween hpath => ?_⟩
    · rw [at?_append, hf, Option.bind_some, at?_fn hne, hm]
    · rw [at?_append, hf, Option.bind_some, at?_fn hbetween]
      exact hfree between hpath
  · rintro ⟨inner, head, bodyPos, written, value, rfl, rfl, hm, hfree⟩
    have hne : inner ≠ [] := by
      rintro rfl
      rw [List.append_nil, hf] at hm
      cases hm
    rw [at?_append, hf, Option.bind_some, at?_fn hne] at hm
    have hv := mem_letHere (v := v).mpr ⟨written, value, rfl⟩
    refine ⟨head, body, ⟨bodyPos, rfl⟩, inner, _,
      ⟨hm, (inSight_entersNoFunction hm hv).mpr fun between hpath => ?_⟩, v, hv, rfl, rfl, rfl⟩
    by_cases hbetween : between = []
    · subst hbetween
      rintro _ _ _ ⟨⟩
    · have := hfree between hbetween hpath
      rwa [at?_append, hf, Option.bind_some, at?_fn hbetween] at this

theorem mem_lets : (place, v, body) ∈ p.lets ↔ p.DeclaredIn place v body := by
  rw [lets, List.mem_flatMap]
  constructor
  · rintro ⟨⟨outer, f⟩, hvisit, hv⟩
    have hf := (mem_visits.mp hvisit).1
    obtain ⟨inner, head, bodyPos, written, value, hplace, rfl, hm, hfree⟩ := (mem_letsHere hf).mp hv
    exact ⟨outer, inner, head, bodyPos, written, value, hplace, hf, hm, hfree⟩
  · rintro ⟨outer, inner, head, bodyPos, written, value, hplace, hf, hm, hfree⟩
    exact ⟨(outer, _), mem_visits.mpr ⟨hf, inSight_entersAll _ _⟩,
      (mem_letsHere hf).mpr ⟨inner, head, bodyPos, written, value, hplace, rfl, hm, hfree⟩⟩

theorem mem_params : ((place, i), param, head, body) ∈ p.params ↔
    (∃ bodyPos, p.node.at? place = some (.stmt (.fn head bodyPos body))) ∧
      head.params[i]? = some param := by
  simp only [params, paramsHere, List.mem_flatMap, List.mem_map, Prod.exists, mem_visits,
    mem_functionHere, Prod.mk.injEq, List.mem_zipIdx_iff_getElem?]
  constructor
  · rintro ⟨_, _, ⟨hf, -⟩, head, _, ⟨bodyPos, rfl⟩, _, _, hparam, ⟨rfl, rfl⟩, rfl, rfl, rfl⟩
    exact ⟨⟨bodyPos, hf⟩, hparam⟩
  · rintro ⟨⟨bodyPos, hf⟩, hparam⟩
    exact ⟨place, _, ⟨hf, inSight_entersAll _ _⟩, head, body, ⟨bodyPos, rfl⟩, param, i, hparam,
      ⟨rfl, rfl⟩, rfl, rfl, rfl⟩

theorem MeetsNoFunction.eq_of_prefix {outer inner outer' inner' : Path}
    (hfree : p.MeetsNoFunction outer inner)
    (hf : p.node.at? outer' = some (.stmt (.fn head bodyPos body)))
    (hsame : outer ++ inner = outer' ++ inner') (hshorter : outer <+: outer') : outer = outer' := by
  obtain ⟨between, rfl⟩ := hshorter
  by_contra hne
  have hbetween : between ≠ [] := fun h => hne (by rw [h, List.append_nil])
  rw [List.append_assoc, List.append_cancel_left_eq] at hsame
  exact hfree between hbetween ⟨inner', hsame.symm⟩ head bodyPos body hf

theorem nodup_lets (p : Program) : (p.lets.map Prod.fst).Nodup := by
  refine nodup_keys (nodup_visits entersAll p.node) (fun outer _ => ?_) ?_
  · rcases functionHere_cases outer.2 with hnone | ⟨f, hf⟩
    · simp [letsHere, hnone]
    rw [letsHere, hf, List.flatMap_singleton]
    refine nodup_keys (nodup_visits _ _) (fun inner _ => ?_) ?_
    · rcases letHere_cases inner.2 with h | ⟨v, h⟩ <;> simp [h]
    · simp
  · rintro ⟨outer, f⟩ hf ⟨outer', f'⟩ hf' ⟨place, v, body⟩ hv ⟨_, v', body'⟩ hv' rfl
    have hf := (mem_visits.mp hf).1
    have hf' := (mem_visits.mp hf').1
    obtain ⟨inner, _, _, _, _, rfl, rfl, -, hfree⟩ := (mem_letsHere hf).mp hv
    obtain ⟨inner', _, _, _, _, hsame, rfl, -, hfree'⟩ := (mem_letsHere hf').mp hv'
    rcases List.prefix_or_prefix_of_prefix (List.prefix_append outer inner)
      (hsame ▸ List.prefix_append outer' inner') with hshorter | hshorter
    · exact hfree.eq_of_prefix hf' hsame hshorter
    · exact (hfree'.eq_of_prefix hf hsame.symm hshorter).symm

theorem nodup_params (p : Program) : (p.params.map Prod.fst).Nodup := by
  refine nodup_keys (nodup_visits entersAll p.node) (fun outer _ => ?_) ?_
  · rcases functionHere_cases outer.2 with hnone | ⟨f, hf⟩
    · simp [paramsHere, hnone]
    rw [paramsHere, hf, List.flatMap_singleton, List.map_map]
    have := (List.nodup_zipIdx_map_snd f.1.params).map (Prod.mk_right_injective outer.1)
    rwa [List.map_map] at this
  · rintro ⟨outer, f⟩ - ⟨outer', f'⟩ - ⟨⟨place, i⟩, param, _⟩ h ⟨_, param', _⟩ h' rfl
    obtain ⟨_, -, h⟩ := List.mem_flatMap.mp h
    obtain ⟨_, -, h⟩ := List.mem_map.mp h
    obtain ⟨_, -, h'⟩ := List.mem_flatMap.mp h'
    obtain ⟨_, -, h'⟩ := List.mem_map.mp h'
    exact (congrArg (·.1.1) h).trans (congrArg (·.1.1) h').symm

end

end Program

-- ---------------------------------------------------------------------------
-- The report
-- ---------------------------------------------------------------------------

namespace Diagnostic

def warns (begins ends : String) (w : Diagnostic) : Bool :=
  w.severity == .warning && begins.toList.isPrefixOf w.message.toList &&
    ends.toList.isSuffixOf w.message.toList

def isUnusedVariable : Diagnostic → Bool := warns "variable '" "' is declared but never used"

def isUnusedParam : Diagnostic → Bool := warns "parameter '" "' is never used"

section
variable {begins ends : String} {w : Diagnostic}

theorem warns_iff : w.warns begins ends = true ↔ w.severity = .warning ∧
    begins.toList <+: w.message.toList ∧ ends.toList <:+ w.message.toList := by
  simp [warns, and_assoc]

theorem warns_of_between (middle : String) (hw : w.severity = .warning)
    (hmessage : w.message = begins ++ (middle ++ ends)) : w.warns begins ends = true := by
  rw [warns_iff, hmessage, String.toList_append, String.toList_append]
  exact ⟨hw, List.prefix_append _ _, (List.suffix_append _ _).trans (List.suffix_append _ _)⟩

theorem warns_of_begins (other : String) (hmessage : w.message = other ++ rest)
    (hother : ¬begins.toList <+: other.toList ∧ ¬other.toList <+: begins.toList) :
    w.warns begins ends = false := by
  rw [← Bool.not_eq_true, warns_iff, hmessage, String.toList_append]
  rintro ⟨-, hbegins, -⟩
  exact (List.prefix_or_prefix_of_prefix hbegins (List.prefix_append _ _)).elim hother.1 hother.2

theorem warns_of_ends (other : String) (hmessage : w.message = rest ++ other)
    (hother : ¬ends.toList <:+ other.toList ∧ ¬other.toList <:+ ends.toList) :
    w.warns begins ends = false := by
  rw [← Bool.not_eq_true, warns_iff, hmessage, String.toList_append]
  rintro ⟨-, -, hends⟩
  exact (List.suffix_or_suffix_of_suffix hends (List.suffix_append _ _)).elim hother.1 hother.2

theorem warns_of_mem_notes {d : Detector} {pos : Pos} (h : w ∈ d.notes pos k) :
    w.warns begins ends = false := by
  simp [warns, Detector.severity_of_mem_notes h]

end

end Diagnostic

def Declared.unusedWarning (v : Declared) : Diagnostic where
  severity := .warning
  message := "variable '" ++ v.name ++ "' is declared but never used"
  pos := v.pos

def Param.unusedWarning (param : Param) (function : String) : Diagnostic where
  severity := .warning
  message := "parameter '" ++ param.name ++ "' in '" ++ function ++ "' is never used"
  pos := param.pos

namespace Finding

def isUnusedVariable : Finding → Bool
  | .unusedVariable _ => true
  | _ => false

def isUnusedParam : Finding → Bool
  | .unusedParam .. => true
  | _ => false

end Finding

open Findings

/-- The test tells the warnings about one sort of findings on bodies from all other diagnostics. -/
structure Diagnostic.Tells (test : Diagnostic → Bool) (sort : Finding → Bool) : Prop where
  warning : ∀ {f message pos}, f.styleMessage? = some message →
    test { severity := .warning, message, pos } = sort f
  portability : ∀ {d : Detector} {pos k w}, w ∈ d.portability pos k → test w = false
  notes : ∀ {d : Detector} {pos k w}, w ∈ d.notes pos k → test w = false
  isOfBody : ∀ {f}, sort f = true → f.isOfBody = true

namespace Diagnostic

theorem tells_unusedVariable : Tells isUnusedVariable Finding.isUnusedVariable where
  warning {f} _ _ h := by
    cases f with
    | kind => cases h
    | unusedVariable name =>
      cases h
      exact warns_of_between name rfl String.append_assoc
    | neverReassigned =>
      cases h
      exact warns_of_ends "' is declared mutable but never reassigned" rfl (by decide +kernel)
    | emptyBody | naming =>
      cases h
      exact warns_of_begins "function '" String.append_assoc (by decide +kernel)
    | unusedParam =>
      cases h
      exact warns_of_begins "parameter '"
        (String.append_assoc.trans (String.append_assoc.trans String.append_assoc))
        (by decide +kernel)
  portability h := by
    obtain ⟨-, rfl⟩ := Detector.mem_portability.mp h
    exact warns_of_begins "vector type " (String.append_assoc.trans String.append_assoc)
      (by decide +kernel)
  notes := warns_of_mem_notes
  isOfBody {f} h := by cases f <;> first | rfl | cases h

theorem tells_unusedParam : Tells isUnusedParam Finding.isUnusedParam where
  warning {f} _ _ h := by
    cases f with
    | kind => cases h
    | unusedParam name function =>
      cases h
      exact warns_of_between (name ++ "' in '" ++ function) rfl (by simp only [String.append_assoc])
    | unusedVariable | neverReassigned =>
      cases h
      exact warns_of_begins "variable '" String.append_assoc (by decide +kernel)
    | emptyBody | naming =>
      cases h
      exact warns_of_begins "function '" String.append_assoc (by decide +kernel)
  portability h := by
    obtain ⟨-, rfl⟩ := Detector.mem_portability.mp h
    exact warns_of_begins "vector type " (String.append_assoc.trans String.append_assoc)
      (by decide +kernel)
  notes := warns_of_mem_notes
  isOfBody {f} h := by cases f <;> first | rfl | cases h

end Diagnostic

section
variable {test : Diagnostic → Bool} {sort : Finding → Bool}

theorem Diagnostic.Tells.filter_lint (h : Tells test sort) (p : Program) (d : Option Detector) :
    (p.lint d).filter test =
      ((Stmt.findingsOfAll p.statements).filterMap Finding.warning?).filter test := by
  cases d with
  | none => rw [Program.lint, report_none]
  | some d =>
    rw [Program.lint, ← filter_isStyle_report (d := d) [], List.filter_filter]
    refine List.filter_congr fun w hw => ?_
    cases hstyle : w.isStyle with
    | true => rw [Bool.and_true]
    | false =>
      obtain ⟨pos, k, hw | hw⟩ := report_foreign hw hstyle
      · rw [h.portability hw, Bool.false_and]
      · rw [h.notes hw, Bool.false_and]

theorem Diagnostic.Tells.filter_warning? (h : Tells test sort) (found : Pos × Finding) :
    (Finding.warning? found).filter test =
      if sort found.2 then Finding.warning? found else none := by
  obtain ⟨pos, f⟩ := found
  unfold Finding.warning?
  cases hmessage : f.styleMessage? with
  | none => simp
  | some message => simp [Option.filter, h.warning hmessage]

theorem Diagnostic.Tells.lint_eq (h : Tells test sort)
    {items : FnHead × List Stmt → List α} {warning : FnHead × List Stmt → α → Diagnostic}
    (hbody : ∀ f, ((ofBody f.1 f.2).filter (sort ·.2)).filterMap Finding.warning? =
      (items f).map (warning f)) (p : Program) (d : Option Detector) :
    (p.lint d).filter test = p.functions.flatMap fun f => (items f).map (warning f) := by
  have picked : (Stmt.findingsOfAll p.statements).filter (sort ·.2) =
      (Stmt.findingsOfAll p.statements).ofBodies.filter (sort ·.2) := by
    rw [ofBodies, List.filter_filter]
    refine List.filter_congr fun found _ => ?_
    cases hsort : sort found.2 with
    | true => rw [h.isOfBody hsort, Bool.true_and]
    | false => rw [Bool.false_and]
  rw [h.filter_lint, List.filter_filterMap, funext h.filter_warning?, ← List.filterMap_filter,
    picked, Stmt.ofBodies_findingsOfAll, List.filter_flatMap, List.filterMap_flatMap,
    Program.functions]
  simp only [hbody]

end

/-- The variable at the place is meant to be used, and nothing in the innermost function around it
reads its name. -/
def Program.UnusedVariable (p : Program) (place : Path) (v : Declared) : Prop :=
  ∃ body, p.DeclaredIn place v body ∧ isIgnored v.name = false ∧
    ¬(ProgramNode.ofStmts body).Reads v.name

/-- The parameter with the number of the function at the place is meant to be used, and nothing in
the body reads its name. -/
def Program.UnusedParam (p : Program) (place : Path) (i : Nat) (param : Param)
    (function : String) : Prop :=
  ∃ head bodyPos body, p.node.at? place = some (.stmt (.fn head bodyPos body)) ∧
    head.params[i]? = some param ∧ head.name = function ∧ isIgnored param.name = false ∧
    ¬(ProgramNode.ofStmts body).Reads param.name

def isUnread (name : String) (body : List Stmt) : Bool :=
  !isIgnored name && !(Stmt.readsOfAll body).contains name

theorem isUnread_iff : isUnread name body = true ↔
    isIgnored name = false ∧ ¬(ProgramNode.ofStmts body).Reads name := by
  simp [isUnread, Stmt.mem_readsOfAll]

namespace Program

def unusedVariables (p : Program) : List (Path × Declared) :=
  (p.lets.filter fun l => isUnread l.2.1.name l.2.2).map fun l => (l.1, l.2.1)

def unusedParams (p : Program) : List ((Path × Nat) × Param × String) :=
  (p.params.filter fun l => isUnread l.2.1.name l.2.2.2).map fun l => (l.1, l.2.1, l.2.2.1.name)

theorem lint_unusedVariables (p : Program) (d : Option Detector) :
    (p.lint d).filter (·.isUnusedVariable) = p.unusedVariables.map (·.2.unusedWarning) := by
  have ofBodies (f : FnHead × List Stmt) :
      ((ofBody f.1 f.2).filter (·.2.isUnusedVariable)).filterMap Finding.warning? =
        ((Stmt.declaresOfAll f.2).filter (isUnread ·.name f.2)).map (·.unusedWarning) := by
    simp [ofBody, Findings.unusedParams, Findings.unusedVariables, neverReassigned,
      Finding.isUnusedVariable, List.filter_map, Function.comp_def, isUnread, Finding.warning?,
      Finding.styleMessage?, Declared.unusedWarning]
  have located : p.unusedVariables.map (·.2.unusedWarning) =
      ((p.lets.map Prod.snd).filter fun l => isUnread l.1.name l.2).map (·.1.unusedWarning) := by
    simp [unusedVariables, List.filter_map, Function.comp_def]
  rw [Diagnostic.tells_unusedVariable.lint_eq ofBodies, located, map_snd_lets]
  simp [List.filter_flatMap, List.map_flatMap, List.filter_map, Function.comp_def]

theorem lint_unusedParams (p : Program) (d : Option Detector) :
    (p.lint d).filter (·.isUnusedParam) =
      p.unusedParams.map fun l => l.2.1.unusedWarning l.2.2 := by
  have ofBodies (f : FnHead × List Stmt) :
      ((ofBody f.1 f.2).filter (·.2.isUnusedParam)).filterMap Finding.warning? =
        (f.1.params.filter (isUnread ·.name f.2)).map (·.unusedWarning f.1.name) := by
    simp [ofBody, Findings.unusedParams, Findings.unusedVariables, neverReassigned,
      Finding.isUnusedParam, List.filter_map, Function.comp_def, isUnread, Finding.warning?,
      Finding.styleMessage?, Param.unusedWarning]
  have located : p.unusedParams.map (fun l => l.2.1.unusedWarning l.2.2) =
      ((p.params.map Prod.snd).filter fun l => isUnread l.1.name l.2.2).map fun l =>
        l.1.unusedWarning l.2.1.name := by
    simp [unusedParams, List.filter_map, Function.comp_def]
  rw [Diagnostic.tells_unusedParam.lint_eq ofBodies, located, map_snd_params]
  simp [List.filter_flatMap, List.map_flatMap, List.filter_map, Function.comp_def]

theorem mem_unusedVariables {p : Program} :
    (place, v) ∈ p.unusedVariables ↔ p.UnusedVariable place v := by
  simp [unusedVariables, UnusedVariable, ← mem_lets, isUnread_iff]

theorem mem_unusedParams {p : Program} :
    ((place, i), param, function) ∈ p.unusedParams ↔ p.UnusedParam place i param function := by
  simp only [unusedParams, UnusedParam, List.mem_map, List.mem_filter, isUnread_iff, Prod.exists,
    Prod.mk.injEq, mem_params]
  constructor
  · rintro ⟨_, _, _, head, body, ⟨⟨⟨bodyPos, hf⟩, hparam⟩, hunread⟩, ⟨rfl, rfl⟩, rfl, rfl⟩
    exact ⟨head, bodyPos, body, hf, hparam, rfl, hunread⟩
  · rintro ⟨head, bodyPos, body, hf, hparam, rfl, hunread⟩
    exact ⟨place, i, param, head, body, ⟨⟨⟨bodyPos, hf⟩, hparam⟩, hunread⟩, ⟨rfl, rfl⟩, rfl, rfl⟩

end Program

/-- Each variable of a function that nothing reads is reported once, and so is each parameter. No
other variable or parameter is. -/
theorem lint_unused (p : Program) (d : Option Detector) :
    (∃ unused : List (Path × Declared), (unused.map Prod.fst).Nodup ∧
      (∀ place v, (place, v) ∈ unused ↔ p.UnusedVariable place v) ∧
      (p.lint d).filter (·.isUnusedVariable) = unused.map (·.2.unusedWarning)) ∧
    ∃ unused : List ((Path × Nat) × Param × String), (unused.map Prod.fst).Nodup ∧
      (∀ place i param function,
        ((place, i), param, function) ∈ unused ↔ p.UnusedParam place i param function) ∧
      (p.lint d).filter (·.isUnusedParam) =
        unused.map fun (_, param, function) => param.unusedWarning function := by
  refine ⟨⟨p.unusedVariables, ?_, fun _ _ => Program.mem_unusedVariables,
    p.lint_unusedVariables d⟩, p.unusedParams, ?_, fun _ _ _ _ => Program.mem_unusedParams,
    p.lint_unusedParams d⟩
  · rw [Program.unusedVariables, List.map_map]
    exact p.nodup_lets.sublist (List.filter_sublist.map _)
  · rw [Program.unusedParams, List.map_map]
    exact p.nodup_params.sublist (List.filter_sublist.map _)

end Lanewise
