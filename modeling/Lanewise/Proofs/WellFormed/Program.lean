import Lanewise.Proofs.Check.Pairing
import Lanewise.Proofs.WellFormed.Expr
import Lanewise.Target.Resolve

/-!
# Well-formed types in a run

`visits_wellFormed`: a checker starts with well-formed types and comes to hold no others, whatever
it is given and whether that is in order or not: not in bindings, not in what a return has to give,
not in signatures and not among the types of expressions. This holds between statements as well as
inside of them (`Visits`), so nothing that a check compares is an error or absent, and no name of a
user spells a builtin scalar.
-/

namespace Lanewise

open CheckM

structure Checker.WellFormed (c : Checker) : Prop where
  context : c.context.WellFormed
  types : ∀ entry ∈ c.types, entry.2.WellFormed
  declared : ∀ entry ∈ c.declared, entry.2.WellFormed

theorem Ty.allWellFormed_iff : Ty.AllWellFormed types ↔ ∀ t ∈ types, t.WellFormed := by
  induction types with
  | nil => simp [Ty.AllWellFormed]
  | cons t rest ih => simp [Ty.AllWellFormed, ih]

-- ---------------------------------------------------------------------------
-- What a check does to a checker
-- ---------------------------------------------------------------------------

namespace Checker.WellFormed

variable {c d : Checker} {sig : Signature}

theorem reset (hc : c.WellFormed) : { c with types := [] }.WellFormed :=
  ⟨hc.context, fun _ h => (nomatch h), hc.declared⟩

theorem join (hc : c.WellFormed) (hd : d.WellFormed) :
    { d with types := c.types ++ d.types.below n }.WellFormed := by
  refine ⟨hd.context, fun entry hentry => ?_, hd.declared⟩
  rcases List.mem_append.mp hentry with hold | hnew
  · exact hc.types entry hold
  · obtain ⟨inner, hinner, rfl⟩ := List.mem_map.mp hnew
    exact hd.types inner hinner

theorem changeContext (hc : c.WellFormed) (h : Context.WellFormed changed) :
    { c with context := changed }.WellFormed := ⟨h, hc.types, hc.declared⟩

theorem push (hc : c.WellFormed) : { c with context := c.context.push }.WellFormed :=
  hc.changeContext hc.context.push

theorem enter (hret : ret.WellFormed) (hc : c.WellFormed) :
    { c with context := c.context.enter ret }.WellFormed := hc.changeContext (hc.context.enter hret)

theorem defineFunction (hsig : sig.WellFormed) (hc : c.WellFormed) :
    { c with context := c.context.defineFunction name (some sig) }.WellFormed :=
  hc.changeContext (hc.context.defineFunction hsig)

theorem noteFunction (hsig : sig.WellFormed) (hc : c.WellFormed) :
    { c with declared := c.declared ++ [(name, sig)] }.WellFormed := by
  refine ⟨hc.context, hc.types, fun entry hentry => ?_⟩
  rcases List.mem_append.mp hentry with hold | hnew
  · exact hc.declared entry hold
  · rw [List.mem_singleton.mp hnew]
    exact hsig

end Checker.WellFormed

namespace Pairing

def wellFormed (R : Record) : Pairing := { alike with
  toRecord := R
  checkers := fun c c' => c' = c ∧ c.WellFormed
  type := Ty.WellFormed
  type_unit := trivial
  reset := fun ⟨heq, hc⟩ => ⟨by rw [heq], hc.reset⟩
  join := fun ⟨heq, hc⟩ ⟨heq', hd⟩ => ⟨by rw [heq, heq'], hc.join hd⟩
  push := fun ⟨heq, hc⟩ => ⟨by rw [heq], hc.push⟩
  enter := fun hret ⟨heq, hc⟩ => ⟨by rw [heq], hc.enter hret⟩
  pop := fun ⟨heq, hc⟩ => ⟨by rw [heq], hc.changeContext hc.context.pop⟩
  rollback := fun ⟨heq, _⟩ ⟨heq', hd⟩ =>
    ⟨by rw [heq, heq'], hd.changeContext hd.context.rollback⟩
  defineVariable := fun ht ⟨heq, hc⟩ =>
    ⟨alike.defineVariable trivial heq, hc.changeContext (hc.context.defineVariable ht)⟩
  defineFunction := fun hparams hret ⟨heq, hc⟩ =>
    ⟨alike.defineFunction (fun _ _ => trivial) trivial heq,
      hc.defineFunction ⟨Ty.allWellFormed_iff.mpr hparams, hret⟩⟩
  noteFunction := fun hparams hret ⟨heq, hc⟩ =>
    ⟨alike.noteFunction (fun _ _ => trivial) trivial heq,
      hc.noteFunction ⟨Ty.allWellFormed_iff.mpr hparams, hret⟩⟩
  returnType? := fun ⟨heq, _⟩ => by rw [heq] }

theorem wellFormed_reflexive (R : Record) : (wellFormed R).Reflexive :=
  ⟨rfl, fun _ => rfl, fun _ => trivial⟩

section
variable {R : Record} {P : α → Prop} {m m' : CheckM α}

theorem Keeps.yields (h : (wellFormed R).Keeps pre post P m m') (hc : c.WellFormed)
    (hpre : pre true c.types) : (m.run c).2.WellFormed ∧ ∀ a, (m.run c).1 = .ok a → P a := by
  have hends := h true c c ⟨rfl, hc⟩ hpre
  generalize m.run c = outcome at hends ⊢
  generalize m'.run c = outcome' at hends
  cases hends with
  | ok ha hc =>
    refine ⟨hc.2, ?_⟩
    rintro _ ⟨⟩
    exact ha
  | error h => exact ⟨(h trivial).2.2, fun _ h => (nomatch h)⟩
  | alone hstep => exact (hstep trivial).elim

theorem Steps.ok (h : (wellFormed .trivial).Steps places lo hi P m m') (hc : c.WellFormed)
    (hrun : m.run c = (.ok a, c')) : c'.WellFormed ∧ P a := by
  have hyields := h.yields hc trivial
  rw [hrun] at hyields
  exact ⟨hyields.1, hyields.2 a rfl⟩

theorem Parts.below_ok (h : (wellFormed .trivial).Parts part P m m') (hc : c.WellFormed)
    (hrun : (below n m).run c = (.ok a, c')) : c'.WellFormed := by
  have hsteps : (wellFormed .trivial).Steps (fun path => part path.tail) n (n + 1) P
      (CheckM.below n m) _ := .below h rfl
  exact (hsteps.ok hc hrun).1

end

end Pairing

theorem infer_wellFormed {c : Checker} (hc : c.WellFormed) (r : Rules) (e : Expr) :
    ((r.infer e).run c).2.WellFormed ∧ ∀ t, ((r.infer e).run c).1 = .ok t → t.WellFormed := by
  have found := infer_yields (d := r.detector) hc.context e
  rw [Rules.run_infer]
  refine ⟨⟨hc.context, fun entry hentry => ?_, hc.declared⟩, found.result⟩
  rcases List.mem_append.mp hentry with hold | hnew
  · exact hc.types entry hold
  · exact found.types entry hnew

theorem wellFormed_leaves {R : Record} (r : Rules)
    (hR : ∀ {e c c' t}, c.WellFormed → c.types = [] → (r.infer e).run c = (.ok t, c') →
      R.whole true e.exprAt? c'.types) : (Pairing.wellFormed R).Leaves r r where
  infer {e e'} he := by
    obtain rfl : e' = e := he
    rintro _ _ c ⟨rfl, hc⟩ ⟨rfl, hempty⟩
    obtain ⟨hafter, hresult⟩ := infer_wellFormed hc r e'
    have hrecorded := fun c' t => @hR e' c c' t hc hempty
    generalize (r.infer e').run c = outcome at hafter hresult hrecorded
    obtain ⟨result, after⟩ := outcome
    cases result with
    | ok t => exact .ok (hresult t rfl) ⟨rfl, hafter⟩ (hrecorded after t rfl)
    | error error => exact .error fun _ => ⟨trivial, rfl, hafter⟩
  pos {e e'} he := by
    obtain rfl : e' = e := he
    exact ⟨rfl, trivial⟩
  resolve {a} _ _ _ := by
    rintro _ _ c ⟨rfl, hc⟩ hlog
    rw [Rules.run_resolve]
    cases hresult : a.resolve (r.names c.context) with
    | ok t => exact .ok (Spells.wellFormed (WrittenType.resolve_ok.mp hresult)) ⟨rfl, hc⟩ hlog
    | error error => exact .error fun _ => ⟨trivial, rfl, hc⟩
  errors _ _ _ := trivial

theorem trivial_leaves (r : Rules) : (Pairing.wellFormed .trivial).Leaves r r :=
  wellFormed_leaves r fun _ _ _ => trivial

theorem paired_wellFormed (s : Stmt) : Stmt.Paired (.wellFormed .trivial) s s :=
  (Pairing.wellFormed_reflexive .trivial).stmt s fun _ _ => trivial

theorem resolveParams_wellFormed (hc : c.WellFormed)
    (h : (Rules.resolveParams r function params).run c = (.ok types, c')) :
    c'.WellFormed ∧ ∀ t ∈ types, t.WellFormed := by
  have hsteps : (Pairing.wellFormed .trivial).Steps (fun _ => none) 0 0 _
      (r.resolveParams function params) _ :=
    (trivial_leaves r).resolveParams function fun _ _ => ⟨trivial, fun _ _ => trivial⟩
  exact hsteps.ok hc h

theorem resolve?_wellFormed (hc : c.WellFormed)
    (h : (Rules.resolve? r written).run c = (.ok ret, c')) :
    c'.WellFormed ∧ ∀ t ∈ ret, t.WellFormed := by
  have hsteps : (Pairing.wellFormed .trivial).Steps (fun _ => none) 0 0 _ (r.resolve? written) _ :=
    (trivial_leaves r).resolve? fun _ _ => trivial
  exact hsteps.ok hc h

theorem stmt_wellFormed (r : Rules) (s : Stmt) :
    (Pairing.wellFormed .trivial).Parts s.exprAt? (fun _ => True) (s.check r) (s.check r) :=
  .stmt ((paired_wellFormed s).check (trivial_leaves r))

theorem branch_wellFormed (r : Rules) (s : Stmt) : (Pairing.wellFormed .trivial).Parts s.exprAt?
    (fun _ => True) (s.asBranch (s.check r)) (s.asBranch (s.check r)) :=
  .asBranch (paired_wellFormed s) (stmt_wellFormed r s)

-- ---------------------------------------------------------------------------
-- Comparing well-formed types
-- ---------------------------------------------------------------------------

theorem Ty.ofName?_of_reconciled? (h : reconciled? name = some s) :
    Scalar.ofName? name = some s := by
  unfold reconciled? at h
  split at h
  case h_7 => cases h
  all_goals
    cases h
    decide

namespace Ty.WellFormed

variable {t u : Ty}

theorem not_error (h : t.WellFormed) : t.isError = false := by
  cases t with
  | error => exact h.elim
  | _ => rfl

theorem not_reconcilable (h : t.WellFormed) : t.isReconcilable = false := by
  cases t with
  | custom name =>
    cases hname : reconciled? name with
    | none => simp [isReconcilable, hname]
    | some s =>
      have hscalar := h.2.1
      rw [ofName?_of_reconciled? hname] at hscalar
      cases hscalar
  | _ => rfl

theorem compatible (ht : t.WellFormed) (hu : u.WellFormed) :
    t.compatible u = (t.same u || t.widens u) := by
  rw [Ty.compatible]
  simp only [ht.not_absent, hu.not_absent, ht.not_error, hu.not_error, ht.not_reconcilable,
    hu.not_reconcilable, Bool.or_self, Bool.false_eq_true, if_false]
  cases hsame : t.same u with
  | true => rfl
  | false =>
    simp only [Bool.false_eq_true, if_false, Bool.false_or]
    -- A name of the user takes part in no conversion.
    split
    · cases t <;> cases u <;>
        simp_all [isCustom, widens, isSigned, isUnsigned, isFloat, isVector, scalar?]
    · rfl

end Ty.WellFormed

-- ---------------------------------------------------------------------------
-- On the way through statements
-- ---------------------------------------------------------------------------

namespace Checker

def inside (c : Checker) (head : FnHead) (sig : Signature) : Checker :=
  ((Rules.defineParams head.params sig.params).run { c with
    context := (c.context.defineFunction head.name (some sig)).enter sig.ret }).2

def inBranch (c : Checker) : Stmt → Checker
  | .absent | .block .. => c
  | _ => { c with context := c.context.push }

/-- The checker behind statements that are checked one by one, each of them in order or not. -/
def after (c : Checker) (r : Rules) (statements : List Stmt) : Checker :=
  statements.foldl (fun c s => (c.checkStmt r s).2) c

end Checker

mutual
/-- From the first checker, the second is met in the course of checking the statement. The places
of types found on the way are counted from the statement that is being checked. -/
inductive Visits (r : Rules) : Stmt → Checker → Checker → Prop
  | start : Visits r s c c
  | done : Visits r s c (c.checkStmt r s).2
  | fn (hparams : (r.resolveParams head.name head.params).run c = (.ok params, c₁))
      (hret : (r.resolve? head.returns).run c₁ = (.ok ret, c₂))
      (hbody : VisitsAll r 0 body (c₂.inside head ⟨params, ret.getD .unit, false⟩) c') :
      Visits r (.fn head p body) c c'
  | block (hbody : VisitsAll r 0 body { c with context := c.context.push } c') :
      Visits r (.block p body) c c'
  | yes (hcondition : (below 0 (r.checkCondition .ifElse e)).run c = (.ok (), c₁))
      (hyes : Visits r yes (c₁.inBranch yes) c') : Visits r (.ifElse p e yes no) c c'
  | no (hcondition : (below 0 (r.checkCondition .ifElse e)).run c = (.ok (), c₁))
      (hyes : (below 1 (yes.asBranch (yes.check r))).run c₁ = (.ok (), c₂))
      (hno : Visits r no (c₂.inBranch no) c') : Visits r (.ifElse p e yes no) c c'
  | whileBody (hcondition : (below 0 (r.checkCondition .whileLoop e)).run c = (.ok (), c₁))
      (hbody : Visits r body (c₁.inBranch body) c') : Visits r (.whileLoop p e body) c c'
  | forInit (hinit : Visits r init { c with context := c.context.push } c') :
      Visits r (.forLoop p init e step body) c c'
  | forBody
      (hinit : (below 0 (init.check r)).run { c with context := c.context.push } = (.ok (), c₁))
      (hcondition : (if e.isAbsent then pure () else below 1 (r.checkCondition .forLoop e)).run c₁ =
        (.ok (), c₂))
      (hstep : (below 2 (r.infer? step)).run c₂ = (.ok t, c₃)) (hbody : Visits r body c₃ c') :
      Visits r (.forLoop p init e step body) c c'
inductive VisitsAll (r : Rules) : Nat → List Stmt → Checker → Checker → Prop
  | start : VisitsAll r n body c c
  | head (hs : Visits r s c c') : VisitsAll r n (s :: rest) c c'
  | tail (hs : (below n (s.check r)).run c = (.ok (), next))
      (hrest : VisitsAll r (n + 1) rest next c') : VisitsAll r n (s :: rest) c c'
end

namespace Checker.WellFormed

variable {c c' : Checker} {r : Rules}

theorem fresh (o : CheckOptions) : (Checker.fresh o).WellFormed := by
  refine ⟨?_, fun _ h => (nomatch h), fun _ h => (nomatch h)⟩
  simp only [Checker.fresh, Context.foldl_declareOpaque]
  exact ⟨Context.WellFormed.initial.symbols, Context.WellFormed.initial.frames⟩

theorem checkStmt (hc : c.WellFormed) (s : Stmt) : (c.checkStmt r s).2.WellFormed :=
  (((paired_wellFormed s).check (trivial_leaves r)).yields hc trivial).1

theorem inBranch (hc : c.WellFormed) (s : Stmt) : (c.inBranch s).WellFormed := by
  cases s with
  | absent => exact hc
  | block => exact hc
  | _ => exact hc.push

theorem inside (hc : c.WellFormed) (head : FnHead) (hsig : sig.WellFormed) :
    (c.inside head sig).WellFormed := by
  have hentered : { c with
      context := (c.context.defineFunction head.name (some sig)).enter sig.ret }.WellFormed :=
    (hc.defineFunction hsig).enter hsig.2
  have hdefined : (Pairing.wellFormed .trivial).Keeps (fun _ _ => True) _ _ _ _ :=
    Pairing.Leaves.defineParams head.params (Ty.allWellFormed_iff.mp hsig.1)
  exact (hdefined.yields hentered trivial).1

theorem unlessAbsent (hc : c.WellFormed) {e : Expr}
    (h : (if e.isAbsent then pure () else below 1 (r.checkCondition .forLoop e)).run c =
      (.ok (), c')) : c'.WellFormed := by
  split at h
  · obtain ⟨-, rfl⟩ := Prod.mk.inj h
    exact hc
  · exact ((trivial_leaves r).checkCondition rfl).below_ok hc h

theorem after (hc : c.WellFormed) (statements : List Stmt) : (c.after r statements).WellFormed := by
  induction statements generalizing c with
  | nil => exact hc
  | cons s rest ih => exact ih (hc.checkStmt s)

end Checker.WellFormed

mutual
theorem Visits.wellFormed (hc : c.WellFormed) : Visits r s c c' → c'.WellFormed
  | .start => hc
  | .done => hc.checkStmt s
  | .fn hparams hret hbody => by
    obtain ⟨hc₁, hparams⟩ := resolveParams_wellFormed hc hparams
    obtain ⟨hc₂, hret⟩ := resolve?_wellFormed hc₁ hret
    refine hbody.wellFormed (hc₂.inside _ ?_)
    exact ⟨Ty.allWellFormed_iff.mpr hparams, (Pairing.wellFormed .trivial).type_getD hret⟩
  | .block hbody => hbody.wellFormed hc.push
  | .yes hcondition hyes => by
    have hc₁ := ((trivial_leaves r).checkCondition rfl).below_ok hc hcondition
    exact hyes.wellFormed (hc₁.inBranch _)
  | .no hcondition hyes hno => by
    have hc₁ := ((trivial_leaves r).checkCondition rfl).below_ok hc hcondition
    have hc₂ := (branch_wellFormed r _).below_ok hc₁ hyes
    exact hno.wellFormed (hc₂.inBranch _)
  | .whileBody hcondition hbody => by
    have hc₁ := ((trivial_leaves r).checkCondition rfl).below_ok hc hcondition
    exact hbody.wellFormed (hc₁.inBranch _)
  | .forInit hinit => hinit.wellFormed hc.push
  | .forBody hinit hcondition hstep hbody => by
    have hc₁ := (stmt_wellFormed r _).below_ok hc.push hinit
    have hc₂ := hc₁.unlessAbsent hcondition
    have hc₃ := ((trivial_leaves r).infer?
      ((Pairing.wellFormed_reflexive _).ifAny _)).below_ok hc₂ hstep
    exact hbody.wellFormed hc₃
theorem VisitsAll.wellFormed (hc : c.WellFormed) : VisitsAll r n body c c' → c'.WellFormed
  | .start => hc
  | .head hs => hs.wellFormed hc
  | .tail hs hrest => hrest.wellFormed ((stmt_wellFormed r _).below_ok hc hs)
end

-- ---------------------------------------------------------------------------
-- The types of a run
-- ---------------------------------------------------------------------------

namespace Checker

inductive Holds (c : Checker) : Ty → Prop
  | symbol (hs : s ∈ c.context.symbols) : Holds c s.ty
  | returns (hf : f ∈ c.context.frames) (ht : f.returns = some t) : Holds c t
  | declared (hsig : (name, sig) ∈ c.declared) : Holds c (.ofSignature (some sig))
  | recorded (ht : (path, t) ∈ c.types) : Holds c t

/-- The types that the rules look at or compare when a checker has come this far. -/
inductive Meets (r : Rules) (c : Checker) : Ty → Prop
  | held (ht : c.Holds t) : Meets r c t
  | found (ht : (c.checkExpr r e).1 = .ok t) : Meets r c t
  | written (ht : ((r.resolve a).run c).1 = .ok t) : Meets r c t
  | param (hf : Meets r c (.function params ret variadic)) (ht : t ∈ params) : Meets r c t
  | lane (hk : VectorKind.isValid k = true) : Meets r c k.lane
  /-- What a function returns that does not say so. -/
  | unit : Meets r c .unit

theorem WellFormed.holds {c : Checker} (hc : c.WellFormed) (ht : c.Holds t) : t.WellFormed := by
  cases ht with
  | symbol hs => exact hc.context.symbols _ hs
  | returns hf ht => exact hc.context.frames _ hf _ ht
  | declared hsig => exact hc.declared _ hsig
  | recorded ht => exact hc.types _ ht

theorem WellFormed.meets {c : Checker} (hc : c.WellFormed) (ht : c.Meets r t) : t.WellFormed := by
  induction ht with
  | held ht => exact hc.holds ht
  | found ht => exact (infer_wellFormed hc r _).2 _ ht
  | written ht =>
    rw [Rules.run_resolve] at ht
    exact Spells.wellFormed (WrittenType.resolve_ok.mp ht)
  | param _ ht ih => exact Ty.allWellFormed_iff.mp ih.1 _ ht
  | lane hk => exact Ty.wellFormed_lane hk
  | unit => trivial

end Checker

theorem VectorKind.width_pos (k : VectorKind) (hk : k.isValid = true) : 0 < k.width := by
  cases k with
  | invalid => cases hk
  | _ => decide

/-- Whatever is checked before and however it ends: at every point of a check all types that there
are, in all their parts, are well formed. So no name spells a builtin scalar, every vector type is
the one of a valid kind, and two types are compatible only if they are the same or one widens to the
other, never because one of them is an error. -/
theorem visits_wellFormed (o : CheckOptions) (before : List Stmt) (s : Stmt) (c : Checker)
    (h : Visits o.rules s ((Checker.fresh o).after o.rules before) c) :
    (∀ t, c.Meets o.rules t → t.WellFormed ∧ t.canonical = t) ∧
    (∀ k, c.Meets o.rules (.vector k) → k.isValid = true ∧ Ty.ofKind k = .vector k ∧
      (Ty.vector k).lane = k.lane ∧ 0 < (Ty.vector k).width) ∧
    ∀ t u, c.Meets o.rules t → c.Meets o.rules u →
      (t.isError || u.isError) = false ∧ t.compatible u = (t.same u || t.widens u) := by
  have hc : c.WellFormed := h.wellFormed ((Checker.WellFormed.fresh o).after before)
  refine ⟨fun t ht => ?_, fun k hk => ?_, fun t u ht hu => ?_⟩
  · have hwf := hc.meets ht
    exact ⟨hwf, Ty.canonical_of_not_isReconcilable hwf.not_reconcilable⟩
  · have hvalid : k.isValid = true := hc.meets hk
    exact ⟨hvalid, Ty.ofKind_of_isValid hvalid, Ty.lane_vector hvalid, k.width_pos hvalid⟩
  · have htwf := hc.meets ht
    have huwf := hc.meets hu
    exact ⟨by rw [htwf.not_error, huwf.not_error, Bool.or_self], htwf.compatible huwf⟩

/-- The begin of a function, reached behind a return that was out of place. -/
theorem visits_wellFormed_inside :
    ∃ c : Checker, c.context.functionNamed? "f" = some (.function [] .unit false) ∧
      c.context.returnType? = some .unit ∧
      ∀ t, c.Meets ⟨.baseline .x86_64, false⟩ t → t.WellFormed ∧ t.canonical = t := by
  have h : Visits ⟨.baseline .x86_64, false⟩ (.fn ⟨default, "f", [], none⟩ default [])
      ((Checker.fresh { detector := .baseline .x86_64 }).after ⟨.baseline .x86_64, false⟩
        [.ret default .absent]) _ :=
    .fn rfl rfl .start
  have all := visits_wellFormed { detector := .baseline .x86_64 } [.ret default .absent] _ _ h
  exact ⟨_, rfl, rfl, all.1⟩

end Lanewise
