import Lanewise.Proofs.Check.Inference
import Lanewise.Proofs.Check.Pairing
import Lanewise.Proofs.Context.Laws
import Lanewise.Proofs.Strictness.Annotation
import Lanewise.Target.Resolve

/-!
# Strictness about names

`outcome_strictness`: whether names without a definition may be used, all of them or some, decides
on the names in the annotations of a program and on nothing else. Two runs under different rules
about names are compared step by step, from checkers that differ in the list of these names only
(`Pairing.nameRules`).
-/

namespace Lanewise

open CheckM

-- ---------------------------------------------------------------------------
-- Annotations of a program
-- ---------------------------------------------------------------------------

def Program.leafNames (p : Program) : List String :=
  (Stmt.annotationsIn p.statements).filterMap (·.leafName?)

-- ---------------------------------------------------------------------------
-- Checkers that differ in names
-- ---------------------------------------------------------------------------

namespace Context

def withNames (c : Context) (names : List String) : Context := { c with opaqueNames := names }

theorem pop_withNames (c : Context) : (c.withNames names).pop = c.pop.withNames names := by
  obtain ⟨symbols, frames, _⟩ := c
  cases frames <;> rfl

theorem rollback_withNames (c : Context) :
    (c.withNames names).rollback n = (c.rollback n).withNames names := by
  unfold rollback withNames mark
  split <;> rfl

end Context

def Checker.withNames (c : Checker) (names : List String) : Checker :=
  { c with context := c.context.withNames names }

section
variable {d : Detector} {c : Context} {names : List String}

mutual
theorem infer_withNames : (e : Expr) → e.infer d (c.withNames names) = e.infer d c
  | .absent | .int .. | .float .. | .bool .. | .string .. | .field .. => by simp only [Expr.infer]
  | .ident .. => by
    simp only [Expr.infer]
    rfl
  | .binary _ _ l r | .index _ l r | .lanewise _ _ l r | .broadcast _ _ l r | .dot _ l r
  | .store _ l r => by
    simp only [Expr.infer, infer_withNames l, infer_withNames r]
  | .unary _ _ e | .group _ e | .reduce _ _ e | .swizzle _ e _ | .load _ e _ => by
    simp only [Expr.infer, infer_withNames e]
  | .call _ f args => by
    cases f with
    | ident _ name =>
      simp only [Expr.infer, inferArgs_withNames args]
      rfl
    | _ => simp only [Expr.infer]
  | .vector _ es name => by
    cases es with
    | nil => simp only [Expr.infer, inferElements_withNames []]
    | cons e es =>
      simp only [Expr.infer, infer_withNames e, inferElements_withNames (e :: es),
        inferElements_withNames es]
theorem inferArgs_withNames : (es : List Expr) → {n : Nat} → {params : List Ty} →
    Expr.inferArgs d (c.withNames names) name n params es = Expr.inferArgs d c name n params es
  | [], _, _ => by simp only [Expr.inferArgs]
  | e :: es, _, _ => by simp only [Expr.inferArgs, infer_withNames e, inferArgs_withNames es]
theorem inferElements_withNames : (es : List Expr) → {n : Nat} →
    Expr.inferElements d (c.withNames names) lane n es = Expr.inferElements d c lane n es
  | [], _ => by simp only [Expr.inferElements]
  | e :: es, _ => by simp only [Expr.inferElements, infer_withNames e, inferElements_withNames es]
end

end

-- ---------------------------------------------------------------------------
-- Side by side
-- ---------------------------------------------------------------------------

def NameRule.rules (names : NameRule) (d : Detector) : Rules :=
  { detector := d, isLenient := names.isLenient }

section
variable {always : Prop} {names names' : NameRule} {d : Detector}

/-- Two runs from checkers that differ in the names only. They end in errors together, or else it
is left open what the second does after an error of the first. -/
def Pairing.nameRules (always : Prop) (names names' : NameRule) : Pairing := { Pairing.alike with
  written := fun a => a.Alike always names names'
  checkers := fun c c' => c' = c.withNames names'.opaqueNames ∧
    c.context.opaqueNames = names.opaqueNames
  errors := fun e e' => e' = e
  inStep := always
  reset := fun ⟨heq, hc⟩ => ⟨by rw [heq]; rfl, hc⟩
  join := fun ⟨heq, _⟩ ⟨heq', hd⟩ => ⟨by rw [heq, heq']; rfl, hd⟩
  push := fun ⟨heq, hc⟩ => ⟨by rw [heq]; rfl, hc⟩
  enter := fun _ ⟨heq, hc⟩ => ⟨by rw [heq]; rfl, hc⟩
  pop := fun {c _} ⟨heq, hc⟩ => by
    refine ⟨?_, c.context.opaqueNames_pop.trans hc⟩
    rw [heq]
    simp only [Checker.withNames, Context.pop_withNames]
  rollback := fun {c _ d _} ⟨heq, _⟩ ⟨heq', hd⟩ => by
    refine ⟨?_, d.context.opaqueNames_rollback.trans hd⟩
    rw [heq, heq']
    dsimp only [Checker.withNames]
    rw [Context.rollback_withNames]
    rfl
  defineVariable := fun _ ⟨heq, hc⟩ => ⟨by rw [heq]; rfl, hc⟩
  defineFunction := fun _ _ ⟨heq, hc⟩ => ⟨by rw [heq]; rfl, hc⟩
  noteFunction := fun _ _ ⟨heq, hc⟩ => ⟨by rw [heq]; rfl, hc⟩
  returnType? := fun ⟨heq, _⟩ => by rw [heq]; rfl }

theorem nameRules_reflexive : (Pairing.nameRules always names names').Reflexive :=
  ⟨rfl, fun _ => rfl, fun _ => trivial⟩

theorem nameRules_leaves :
    (Pairing.nameRules always names names').Leaves (names.rules d) (names'.rules d) where
  infer {e e'} he := by
    obtain rfl : e' = e := he
    rintro _ c _ ⟨rfl, hc⟩ -
    rw [Rules.run_infer, Rules.run_infer]
    simp only [Checker.withNames, NameRule.rules, infer_withNames]
    cases (e'.infer d c.context).result with
    | ok t => exact .ok trivial ⟨rfl, hc⟩ trivial
    | error e => exact .error fun _ => ⟨rfl, rfl, hc⟩
  pos {e e'} he := by
    obtain rfl : e' = e := he
    exact ⟨rfl, trivial⟩
  resolve {a} _ _ ha := by
    rintro _ c _ ⟨rfl, hc⟩ -
    have hrule : (names.rules d).names c.context = names := by
      rw [Rules.names, hc]
      rfl
    have hrule' : (names'.rules d).names (c.withNames names'.opaqueNames).context = names' := rfl
    rw [Rules.run_resolve, Rules.run_resolve, hrule, hrule']
    cases hfirst : a.resolve names with
    | ok t =>
      rw [ha (.inr ⟨t, hfirst⟩), hfirst]
      exact .ok trivial ⟨rfl, hc⟩ trivial
    | error e =>
      by_cases halways : always
      · rw [ha (.inl halways), hfirst]
        exact .error fun _ => ⟨rfl, rfl, hc⟩
      · cases a.resolve names' with
        | ok t => exact .alone halways trivial ⟨rfl, hc⟩ trivial
        | error e' => exact .error fun h => (halways h).elim
  errors _ _ hfault := congrArg (TypeError.mk _) hfault.eq

end

-- ---------------------------------------------------------------------------
-- Programs
-- ---------------------------------------------------------------------------

/-- What can be seen of a check: its error, or else the types it found and the names behind the
program. -/
def Program.outcome (p : Program) (o : CheckOptions) :
    Except TypeError (TypeLog × List (String × Ty) × List (String × Ty)) :=
  (p.check o).map fun c => (c.types, c.context.visibleVariables, c.context.visibleFunctions)

namespace CheckOptions

def strict (d : Detector) (names : List String) : CheckOptions :=
  { detector := d, isLenient := false, opaqueTypes := names }

/-- Every name may be used without a definition, whatever names are given. -/
def lenient (d : Detector) (names : List String) : CheckOptions :=
  { detector := d, isLenient := true, opaqueTypes := names }

def names (o : CheckOptions) : NameRule := o.rules.names (Checker.fresh o).context

theorem allows_names (o : CheckOptions) (name : String) :
    o.names.allows name = (o.opaqueTypes.contains name || o.isLenient) := by
  simp [names, Rules.names, rules, NameRule.allows, Checker.fresh, Context.foldl_declareOpaque,
    Context.initial]

end CheckOptions

theorem Checker.fresh_withNames (o o' : CheckOptions) :
    (Checker.fresh o).withNames o'.names.opaqueNames = Checker.fresh o' := by
  simp [CheckOptions.names, Rules.names, Checker.fresh, Context.foldl_declareOpaque,
    Checker.withNames, Context.withNames]

theorem outcome_eq_of_agreesOn (always : Prop) {p : Program} {o o' : CheckOptions}
    (hd : o'.detector = o.detector)
    (h : ∀ name ∈ p.leafNames, NameRule.AgreesOn always o.names o'.names name)
    (hok : always ∨ ∃ c, p.check o = .ok c) : p.outcome o' = p.outcome o := by
  have halike : ∀ a ∈ Stmt.annotationsIn p.statements, a.Alike always o.names o'.names :=
    fun a ha => WrittenType.alike_of_agreesOn fun name hname =>
      h name (List.mem_filterMap.mpr ⟨a, ha, hname⟩)
  have hrules : o'.names.rules o.detector = o'.rules := by
    rw [← hd]
    rfl
  have hends : (Pairing.nameRules always o.names o'.names).Ends _ _ true (p.run o) (p.run o') :=
    (nameRules_reflexive.body p.statements halike).run (hrules ▸ nameRules_leaves)
      ⟨(Checker.fresh_withNames o o').symm, rfl⟩
  unfold Program.outcome Program.check
  unfold Program.check at hok
  generalize p.run o = outcome at hends hok ⊢
  generalize p.run o' = outcome' at hends ⊢
  cases hends with
  | ok _ hc =>
    obtain ⟨rfl, -⟩ := hc
    rfl
  | error h =>
    rcases hok with halways | ⟨c, hc⟩
    · obtain ⟨rfl, -⟩ := h halways
      rfl
    · cases hc
  | alone hstep =>
    rcases hok with halways | ⟨c, hc⟩
    · exact (hstep halways).elim
    · cases hc

/-- The rule about names without a definition matters only for the names left in the annotations of
a program: to allow all names is the same as to allow these, a list of names counts by which of
these it has, and what is accepted with a list stays so, with the same result, when more names are
allowed. -/
theorem outcome_strictness (d : Detector) (p : Program) :
    (∀ names names', (∀ name ∈ p.leafNames, name ∈ names') →
      p.outcome (.lenient d names) = p.outcome (.strict d names')) ∧
    (∀ names names', (∀ name ∈ p.leafNames, name ∈ names ↔ name ∈ names') →
      p.outcome (.strict d names) = p.outcome (.strict d names')) ∧
    ∀ names result, p.outcome (.strict d names) = .ok result →
      (∀ names', names ⊆ names' → p.outcome (.strict d names') = .ok result) ∧
      ∀ names', p.outcome (.lenient d names') = .ok result := by
  refine ⟨fun names names' h => ?_, fun names names' h => ?_, fun names result hresult => ?_⟩
  · symm
    refine outcome_eq_of_agreesOn True rfl (fun name hname _ => ?_) (.inl trivial)
    simp [CheckOptions.allows_names, CheckOptions.strict, CheckOptions.lenient, h name hname]
  · symm
    refine outcome_eq_of_agreesOn True rfl (fun name hname _ => ?_) (.inl trivial)
    simp [CheckOptions.allows_names, CheckOptions.strict, h name hname]
  · have haccepted : ∃ c, p.check (.strict d names) = .ok c := by
      obtain ⟨c, hc, -⟩ := Except.map_ok.mp hresult
      exact ⟨c, hc⟩
    have hgiven : ∀ name, False ∨ (CheckOptions.strict d names).names.allows name = true →
        name ∈ names := by
      intro name hallowed
      simpa [CheckOptions.allows_names, CheckOptions.strict] using hallowed
    rw [← hresult]
    refine ⟨fun names' hsub => ?_, fun names' => ?_⟩
    · refine outcome_eq_of_agreesOn False rfl (fun name _ hallowed => ?_) (.inr haccepted)
      have hmem := hgiven name hallowed
      simp [CheckOptions.allows_names, CheckOptions.strict, hmem, hsub hmem]
    · refine outcome_eq_of_agreesOn False rfl (fun name _ hallowed => ?_) (.inr haccepted)
      simp [CheckOptions.allows_names, CheckOptions.strict, CheckOptions.lenient,
        hgiven name hallowed]

/-- A variable that is only declared, with a type of which nothing else is known. -/
def pointer : Program where
  name := "pointer"
  statements := [.letDecl default "p" false (some ⟨"&mut [ Point ]", false, default⟩) .absent]

theorem outcome_strictness_pointer :
    (∃ result, pointer.outcome (.strict (.baseline .x86_64) ["Point"]) = .ok result ∧
      ∀ names, pointer.outcome (.lenient (.baseline .x86_64) names) = .ok result) ∧
    (pointer.outcome (.strict (.baseline .x86_64) [])).toBool = false := by
  have accepted : (pointer.outcome (.strict (.baseline .x86_64) ["Point"])).toBool = true := by
    decide +kernel
  refine ⟨?_, by decide +kernel⟩
  cases hresult : pointer.outcome (.strict (.baseline .x86_64) ["Point"]) with
  | error e =>
    rw [hresult] at accepted
    cases accepted
  | ok result =>
    have hkept := (outcome_strictness (.baseline .x86_64) pointer).2.2 ["Point"] result hresult
    exact ⟨result, rfl, hkept.2⟩

end Lanewise
