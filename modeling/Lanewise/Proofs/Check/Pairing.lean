import Lanewise.Proofs.Check.Inference
import Lanewise.Proofs.Check.Places
import Lanewise.Proofs.Check.Run

/-!
# Runs side by side

What is proved of checking a program compares two runs, or one run with itself. A `Pairing` says
what belongs together on the two sides: checkers, errors, the programs and what they have recorded
so far. It has to stand up to what a check does to a context, and then `Pairing.Keeps` goes through
everything that checks are put together with. So a pairing that is right for expressions and
annotations (`Pairing.Leaves`) is right for statements (`Stmt.Paired.check`).

A statement about one run compares it with itself; `Pairing.alike` is what such pairings start
from.
-/

namespace Lanewise

open CheckM

-- ---------------------------------------------------------------------------
-- Pairings
-- ---------------------------------------------------------------------------

/-- The faults that are found in statements, with the names of one program and of the other. -/
inductive Fault.Renamed (name : String → String) : Fault → Fault → Prop
  | untypedParam : Renamed name (.untypedParam p f) (.untypedParam (name p) (name f))
  | untypedVariable : Renamed name (.untypedVariable x) (.untypedVariable (name x))
  | initializer : Renamed name (.initializer x declared t) (.initializer (name x) declared t)
  | returnOutside : Renamed name .returnOutside .returnOutside
  | returned : Renamed name (.returned expected t) (.returned expected t)
  | condition : Renamed name (.condition statement t) (.condition statement t)

theorem Fault.Renamed.eq (h : Renamed id fault fault') : fault' = fault := by
  cases h <;> rfl

theorem Fault.Renamed.kind (h : Renamed name fault fault') : fault'.kind = fault.kind := by
  cases h <;> rfl

/-- What is known of the types that a run has recorded, while a run next to it goes on or after that
has failed. -/
structure Record where
  children : Bool → (Path → Option Expr) → Nat → TypeLog → Prop
  whole : Bool → (Path → Option Expr) → TypeLog → Prop
  children_nil : children true places 0 []
  children_below : children b places n log → whole b' (fun path => places (n :: path)) log' →
    children (b && b') places (n + 1) (log ++ log'.below n)
  whole_absent : whole true Expr.absent.exprAt? []
  whole_stmt : children b (Stmt.exprAt? s) s.arity log → whole b s.exprAt? log

def Record.trivial : Record where
  children _ _ _ _ := True
  whole _ _ _ := True
  children_nil := True.intro
  children_below _ _ := True.intro
  whole_absent := True.intro
  whole_stmt _ := True.intro

/-- What belongs together in two runs. The second records what it finds. -/
structure Pairing extends Record where
  name : String → String
  expr : Expr → Expr → Prop
  written : WrittenType → Prop
  pos : Pos → Prop
  checkers : Checker → Checker → Prop
  /-- What is known of the types that both runs find. -/
  type : Ty → Prop
  errors : TypeError → TypeError → Prop
  /-- Both runs end in an error or none does. If not, the second may go on without the first. -/
  inStep : Prop
  type_unit : type .unit
  reset : checkers c c' → checkers { c with types := [] } { c' with types := [] }
  join : checkers c c' → checkers d d' →
    checkers { d with types := c.types ++ d.types.below n }
      { d' with types := c'.types ++ d'.types.below n }
  push : checkers c c' → checkers { c with context := c.context.push }
    { c' with context := c'.context.push }
  enter : type ret → checkers c c' → checkers { c with context := c.context.enter ret }
    { c' with context := c'.context.enter ret }
  pop : checkers c c' → checkers { c with context := c.context.pop }
    { c' with context := c'.context.pop }
  rollback : checkers c c' → checkers d d' →
    checkers { d with context := d.context.rollback c.context.mark }
      { d' with context := d'.context.rollback c'.context.mark }
  defineVariable : type s.ty → checkers c c' →
    checkers { c with context := c.context.defineVariable s }
      { c' with context := c'.context.defineVariable { s with name := name s.name } }
  defineFunction : (∀ t ∈ s.params, type t) → type s.ret → checkers c c' →
    checkers { c with context := c.context.defineFunction f (some s) }
      { c' with context := c'.context.defineFunction (name f) (some s) }
  noteFunction : (∀ t ∈ s.params, type t) → type s.ret → checkers c c' →
    checkers { c with declared := c.declared ++ [(f, s)] }
      { c' with declared := c'.declared ++ [(name f, s)] }
  returnType? : checkers c c' → c'.context.returnType? = c.context.returnType?

namespace Pairing

theorem type_getD (S : Pairing) {o : Option Ty} (h : ∀ t ∈ o, S.type t) :
    S.type (o.getD .unit) := by
  cases o with
  | none => exact S.type_unit
  | some t => exact h t rfl

/-- How two runs end together, `both` telling whether the first one had come this far. -/
inductive Ends (S : Pairing) (post : Bool → TypeLog → Prop) (P : α → Prop) (both : Bool) :
    Except TypeError α × Checker → Except TypeError α × Checker → Prop
  | ok (ha : P a) (hc : S.checkers c c') (hlog : post both c'.types) :
      Ends S post P both (.ok a, c) (.ok a, c')
  | error (h : S.inStep → S.errors e e' ∧ S.checkers c c') :
      Ends S post P both (.error e, c) (.error e', c')
  /-- The second run is where the first might have been, too. -/
  | alone (hstep : ¬S.inStep) (ha : P a) (hc : S.checkers c₂ c') (hlog : post false c'.types) :
      Ends S post P both (.error e, c) (.ok a, c')

/-- Two checks that start together end together. -/
def Keeps (S : Pairing) (pre post : Bool → TypeLog → Prop) (P : α → Prop) (m m' : CheckM α) :
    Prop :=
  ∀ both c c', S.checkers c c' → pre both c'.types → S.Ends post P both (m.run c) (m'.run c')

/-- The checks look at the children from number `lo` up to `hi`. -/
def Steps (S : Pairing) (places : Path → Option Expr) (lo hi : Nat) (P : α → Prop)
    (m m' : CheckM α) : Prop :=
  S.Keeps (S.children · places lo) (S.children · places hi) P m m'

/-- The checks look at an expression or statement as a whole. -/
def Parts (S : Pairing) (places : Path → Option Expr) (P : α → Prop) (m m' : CheckM α) : Prop :=
  S.Keeps (fun both log => both = true ∧ log = []) (S.whole · places) P m m'

section
variable {S : Pairing} {pre mid post : Bool → TypeLog → Prop} {P : α → Prop} {Q : β → Prop}
  {m m' : CheckM α} {f f' : α → CheckM β} {places : Path → Option Expr}

namespace Keeps

theorem pure (ha : P a) : S.Keeps pre pre P (pure a) (pure a) := fun _ _ _ hc hlog => .ok ha hc hlog

theorem fail (h : S.inStep → S.errors ⟨p, fault⟩ ⟨p, fault'⟩) :
    S.Keeps pre post P (fail p fault) (CheckM.fail p fault') :=
  fun _ _ _ hc _ => .error fun hstep => ⟨h hstep, hc⟩

theorem bind (hm : S.Keeps pre mid P m m') (hf : ∀ a, P a → S.Keeps mid post Q (f a) (f' a)) :
    S.Keeps pre post Q (m >>= f) (m' >>= f') := by
  intro both c c' hc hlog
  have hfirst := hm both c c' hc hlog
  rw [run_bind, run_bind]
  generalize m.run c = outcome at hfirst ⊢
  generalize m'.run c' = outcome' at hfirst ⊢
  cases hfirst with
  | ok ha hc hlog => exact hf _ ha both _ _ hc hlog
  | error h => exact .error h
  | alone hstep ha hc hlog =>
    -- What the first run would do from here tells what the second one does.
    rename_i a c₂ next e before
    have hrest := hf a ha false c₂ next hc hlog
    dsimp only
    generalize (f a).run c₂ = rest at hrest
    generalize (f' a).run next = rest' at hrest ⊢
    cases hrest with
    | ok hb hc hlog => exact .alone hstep hb hc hlog
    | error h => exact .error fun hin => (hstep hin).elim
    | alone _ hb hc hlog => exact .alone hstep hb hc hlog

theorem bind_context {g g' : Context → CheckM β}
    (hg : ∀ c c', c'.returnType? = c.returnType? → S.Keeps pre post Q (g c) (g' c')) :
    S.Keeps pre post Q (context >>= g) (context >>= g') :=
  fun both c c' hc hlog => hg c.context c'.context (S.returnType? hc) both c c' hc hlog

theorem changeContext {change change' : Context → Context}
    (h : ∀ {c c'}, S.checkers c c' → S.checkers { c with context := change c.context }
      { c' with context := change' c'.context }) :
    S.Keeps pre pre (fun _ => True) (changeContext change) (CheckM.changeContext change') :=
  fun _ _ _ hc hlog => .ok trivial (h hc) hlog

theorem noteFunction {s : Signature} (hparams : ∀ t ∈ s.params, S.type t)
    (hret : S.type s.ret) : S.Keeps pre pre (fun _ => True) (CheckM.noteFunction function s)
      (CheckM.noteFunction (S.name function) s) :=
  fun _ _ _ hc hlog => .ok trivial (S.noteFunction hparams hret hc) hlog

theorem inScope {opening opening' : Context → Context} (hm : S.Keeps pre post P m m')
    (h : ∀ {c c'}, S.checkers c c' → S.checkers { c with context := opening c.context }
      { c' with context := opening' c'.context }) :
    S.Keeps pre post P (inScope opening m) (CheckM.inScope opening' m') := by
  intro both c c' hc hlog
  have hinner := hm both { c with context := opening c.context }
    { c' with context := opening' c'.context } (h hc) hlog
  rw [run_inScope, run_inScope]
  generalize m.run { c with context := opening c.context } = outcome at hinner ⊢
  generalize m'.run { c' with context := opening' c'.context } = outcome' at hinner ⊢
  cases hinner with
  | ok ha hc hlog => exact .ok ha (S.pop hc) hlog
  | error h => exact .error fun hstep => ⟨(h hstep).1, S.pop (h hstep).2⟩
  | alone hstep ha hc hlog => exact .alone hstep ha (S.pop hc) hlog

theorem inPush (hm : S.Keeps pre post P m m') :
    S.Keeps pre post P (CheckM.inScope Context.push m) (CheckM.inScope Context.push m') :=
  hm.inScope S.push

theorem atomically (hm : S.Keeps pre post P m m') :
    S.Keeps pre post P (atomically m) (CheckM.atomically m') := by
  intro both c c' hc hlog
  have hinner := hm both c c' hc hlog
  rw [run_atomically, run_atomically]
  generalize m.run c = outcome at hinner ⊢
  generalize m'.run c' = outcome' at hinner ⊢
  cases hinner with
  | ok ha hc hlog => exact .ok ha hc hlog
  | error h => exact .error fun hstep => ⟨(h hstep).1, S.rollback hc (h hstep).2⟩
  | alone hstep ha hc hlog => exact .alone hstep ha hc hlog

theorem below {part : Path → Option Expr} (hm : S.Parts part P m m')
    (hpart : (fun path => places (n :: path)) = part) :
    S.Steps places n (n + 1) P (below n m) (CheckM.below n m') := by
  intro both c c' hc hlog
  have hinner := hm true { c with types := [] } { c' with types := [] } (S.reset hc) ⟨rfl, rfl⟩
  subst hpart
  rw [run_below, run_below]
  generalize m.run { c with types := [] } = outcome at hinner ⊢
  generalize m'.run { c' with types := [] } = outcome' at hinner ⊢
  cases hinner with
  | ok ha hd hwhole =>
    have hlog := S.children_below hlog hwhole
    rw [Bool.and_true] at hlog
    exact .ok ha (S.join hc hd) hlog
  | error h => exact .error fun hstep => ⟨(h hstep).1, S.join hc (h hstep).2⟩
  | alone hstep ha hd hwhole =>
    have hlog := S.children_below hlog hwhole
    rw [Bool.and_false] at hlog
    exact .alone hstep ha (S.join hc hd) hlog

theorem skip (hm : S.Steps places (n + 1) hi P m m')
    (hpart : (fun path => places (n :: path)) = Expr.absent.exprAt?) :
    S.Steps places n hi P m m' := by
  intro both c c' hc hlog
  have hlog := S.children_below hlog (hpart ▸ S.whole_absent)
  rw [Bool.and_true, TypeLog.below, List.map_nil, List.append_nil] at hlog
  exact hm both c c' hc hlog

theorem stmt {s : Stmt} (hm : S.Steps s.exprAt? 0 s.arity P m m') : S.Parts s.exprAt? P m m' := by
  rintro _ c c' hc ⟨rfl, hempty⟩
  have hends := hm true c c' hc (hempty ▸ S.children_nil)
  generalize m.run c = outcome at hends ⊢
  generalize m'.run c' = outcome' at hends ⊢
  cases hends with
  | ok ha hc hlog => exact .ok ha hc (S.whole_stmt hlog)
  | error h => exact .error h
  | alone hstep ha hc hlog => exact .alone hstep ha hc (S.whole_stmt hlog)

end Keeps

end

-- ---------------------------------------------------------------------------
-- Parts of statements
-- ---------------------------------------------------------------------------

/-- What a pairing has to be shown to do for expressions and annotations, and for the errors of
statements. -/
structure Leaves (S : Pairing) (r r' : Rules) : Prop where
  infer : S.expr e e' → S.Parts e.exprAt? S.type (r.infer e) (r'.infer e')
  pos : S.expr e e' → e'.pos = e.pos ∧ S.pos e.pos
  resolve : S.written a → S.Steps places n n S.type (r.resolve a) (r'.resolve a)
  errors : S.inStep → S.pos p → Fault.Renamed S.name fault fault' →
    S.errors ⟨p, fault⟩ ⟨p, fault'⟩

inductive IfAny (S : Pairing) : Expr → Expr → Prop
  | absent : IfAny S .absent .absent
  | present (hne : e ≠ .absent) (hne' : e' ≠ .absent) (h : S.expr e e') : IfAny S e e'

theorem IfAny.same {S : Pairing} (h : e ≠ .absent → S.expr e e) : S.IfAny e e := by
  by_cases hne : e = .absent
  · subst hne
    exact .absent
  · exact .present hne hne (h hne)

end Pairing

def Param.rename (name : String → String) (p : Param) : Param := { p with name := name p.name }

def FnHead.rename (name : String → String) (head : FnHead) : FnHead :=
  { head with name := name head.name, params := head.params.map (·.rename name) }

theorem FnHead.rename_id (head : FnHead) : head.rename id = head := by
  have hparams : head.params.map (·.rename id) = head.params := List.map_id' _
  rw [rename, hparams]
  rfl

namespace Pairing

structure Head (S : Pairing) (head : FnHead) : Prop where
  params : ∀ p ∈ head.params, S.pos p.pos ∧ ∀ a ∈ p.written, S.written a
  returns : ∀ a ∈ head.returns, S.written a

namespace Leaves

section
variable {S : Pairing} {r r' : Rules} {pre : Bool → TypeLog → Prop} {places : Path → Option Expr}

theorem fail (h : S.Leaves r r') (hpos : S.pos p) (hfault : Fault.Renamed S.name fault fault') :
    S.Keeps pre post P (CheckM.fail p fault) (CheckM.fail p fault') :=
  .fail fun hstep => h.errors hstep hpos hfault

theorem failUnless (h : S.Leaves r r') (condition : Bool) (hpos : S.pos p)
    (hfault : Fault.Renamed S.name fault fault') :
    S.Keeps pre pre (fun _ => True) (if !condition then CheckM.fail p fault else Pure.pure ())
      (if !condition then CheckM.fail p fault' else Pure.pure ()) := by
  cases condition with
  | false => exact h.fail hpos hfault
  | true => exact .pure trivial

theorem resolve? (h : S.Leaves r r') {written : Option WrittenType}
    (hw : ∀ a ∈ written, S.written a) :
    S.Steps places n n (fun o => ∀ t ∈ o, S.type t) (r.resolve? written) (r'.resolve? written) := by
  cases written with
  | none => exact .pure fun _ ht => (nomatch ht)
  | some a => exact .bind (h.resolve (hw a rfl)) fun t ht => .pure (by simpa using ht)

theorem resolveParams (h : S.Leaves r r') (function : String) {params : List Param}
    (hp : ∀ p ∈ params, S.pos p.pos ∧ ∀ a ∈ p.written, S.written a) :
    S.Steps places n n (fun types => ∀ t ∈ types, S.type t) (r.resolveParams function params)
      (r'.resolveParams (S.name function) (params.map (·.rename S.name))) := by
  induction params with
  | nil => exact .pure fun _ ht => (nomatch ht)
  | cons p rest ih =>
    rw [List.forall_mem_cons] at hp
    obtain ⟨name, written, pos⟩ := p
    cases written with
    | none => exact h.fail hp.1.1 .untypedParam
    | some a =>
      exact .bind (h.resolve (hp.1.2 a rfl)) fun t ht => .bind (ih hp.2) fun types htypes =>
        .pure (List.forall_mem_cons.mpr ⟨ht, htypes⟩)

theorem infer? (h : S.Leaves r r') (he : S.IfAny e e') :
    S.Parts e.exprAt? (fun o => ∀ t ∈ o, S.type t) (r.infer? e) (r'.infer? e') := by
  cases he with
  | absent =>
    rintro _ c c' hc ⟨rfl, hempty⟩
    exact .ok (fun _ ht => (nomatch ht)) hc (hempty ▸ S.whole_absent)
  | present hne hne' he =>
    have hinfer : S.Parts e.exprAt? (fun o => ∀ t ∈ o, S.type t) (some <$> r.infer e)
        (some <$> r'.infer e') := by
      rw [map_eq_pure_bind, map_eq_pure_bind]
      exact .bind (h.infer he) fun t ht => .pure (by simpa using ht)
    cases e <;> cases e' <;> first | exact hinfer | exact (hne rfl).elim | exact (hne' rfl).elim

theorem checkCondition (h : S.Leaves r r') (he : S.expr e e') :
    S.Parts e.exprAt? (fun _ => True) (r.checkCondition statement e)
      (r'.checkCondition statement e') := by
  obtain ⟨hsame, hpos⟩ := h.pos he
  refine .bind (h.infer he) fun t _ => ?_
  rw [hsame]
  exact h.failUnless t.isCondition hpos .condition

theorem variableType (h : S.Leaves r r') (hpos : S.pos p) {declared value : Option Ty}
    (hdeclared : ∀ t ∈ declared, S.type t) (hvalue : ∀ t ∈ value, S.type t) :
    S.Keeps pre pre S.type (Rules.variableType p x declared value)
      (Rules.variableType p (S.name x) declared value) := by
  unfold Rules.variableType
  split
  · split
    · exact .pure (hdeclared _ rfl)
    · exact h.fail hpos .initializer
  · exact .pure (hdeclared _ rfl)
  · exact .pure (hvalue _ rfl)
  · exact h.fail hpos .untypedVariable

theorem checkLet (h : S.Leaves r r') (hpos : S.pos p) {written : Option WrittenType}
    (hw : ∀ a ∈ written, S.written a) (hv : S.IfAny value value')
    (hpart : (fun path => places (0 :: path)) = value.exprAt?) :
    S.Steps places 0 1 (fun _ => True) (r.checkLet p x isMut written value)
      (r'.checkLet p (S.name x) isMut written value') := by
  refine .bind (h.resolve? hw) fun declared hdeclared =>
    .bind (.below (h.infer? hv) hpart) fun actual hactual =>
    .bind (h.variableType hpos hdeclared fun t ht => hactual t ?_) fun t ht =>
    .changeContext fun hc => S.defineVariable ht hc
  exact (Option.mem_filter_iff.mp ht).1

theorem checkReturn (h : S.Leaves r r') (hpos : S.pos p) (hv : S.IfAny value value')
    (hpart : (fun path => places (0 :: path)) = value.exprAt?) :
    S.Steps places 0 1 (fun _ => True) (r.checkReturn p value) (r'.checkReturn p value') := by
  refine .bind_context fun c c' hsame => ?_
  rw [hsame]
  split
  · exact h.fail hpos .returnOutside
  · exact .bind (.below (h.infer? hv) hpart) fun _ _ => h.failUnless _ hpos .returned

theorem defineParams (params : List Param) {types : List Ty} (htypes : ∀ t ∈ types, S.type t) :
    S.Keeps pre pre (fun _ => True) (Rules.defineParams params types)
      (Rules.defineParams (params.map (·.rename S.name)) types) := by
  refine .changeContext fun {c c'} hc => ?_
  induction params generalizing types c c' with
  | nil => exact hc
  | cons p rest ih =>
    cases types with
    | nil => exact hc
    | cons t types =>
      rw [List.forall_mem_cons] at htypes
      exact ih htypes.2 (S.defineVariable
        (s := ⟨p.name, t, p.written.any (·.isMut), .parameter⟩) htypes.1 hc)

theorem checkFunction (h : S.Leaves r r') {head : FnHead} (hhead : S.Head head)
    {body body' : CheckM Unit} (hbody : S.Steps places lo hi (fun _ => True) body body') :
    S.Steps places lo hi (fun _ => True) (r.checkFunction head body)
      (r'.checkFunction (head.rename S.name) body') := by
  refine .bind (h.resolveParams head.name hhead.params) fun params hparams =>
    .bind (h.resolve? hhead.returns) fun ret hret => ?_
  have hunit := S.type_getD hret
  exact .bind (.atomically (.bind
      (.changeContext fun hc =>
        S.defineFunction (s := ⟨params, ret.getD .unit, false⟩) hparams hunit hc) fun _ _ =>
      .inScope (.bind (defineParams head.params hparams) fun _ _ => hbody) (S.enter hunit)))
    fun _ _ => .noteFunction (s := ⟨params, ret.getD .unit, false⟩) hparams hunit

end

end Leaves

end Pairing

-- ---------------------------------------------------------------------------
-- Statements
-- ---------------------------------------------------------------------------

mutual
/-- The statements have the same form, and what is in them belongs together. -/
inductive Stmt.Paired (S : Pairing) : Stmt → Stmt → Prop
  | absent : Paired S .absent .absent
  | fn (hhead : S.Head head) (hbody : Stmt.AllPaired S body body') :
      Paired S (.fn head p body) (.fn (head.rename S.name) p body')
  | prototype (hhead : S.Head head) :
      Paired S (.prototype head) (.prototype (head.rename S.name))
  | letDecl (hp : S.pos p) (hw : ∀ a ∈ written, S.written a) (hv : S.IfAny value value') :
      Paired S (.letDecl p x isMut written value) (.letDecl p (S.name x) isMut written value')
  | ret (hp : S.pos p) (hv : S.IfAny value value') : Paired S (.ret p value) (.ret p value')
  | block (hbody : Stmt.AllPaired S body body') : Paired S (.block p body) (.block p body')
  | ifElse (hc : S.expr e e') (hyes : Paired S yes yes') (hno : Paired S no no') :
      Paired S (.ifElse p e yes no) (.ifElse p e' yes' no')
  | whileLoop (hc : S.expr e e') (hbody : Paired S body body') :
      Paired S (.whileLoop p e body) (.whileLoop p e' body')
  | forLoop (hinit : Paired S init init') (hc : S.IfAny e e') (hstep : S.IfAny step step')
      (hbody : Paired S body body') :
      Paired S (.forLoop p init e step body) (.forLoop p init' e' step' body')
  | expr (he : S.expr e e') : Paired S (.expr p e) (.expr p e')
inductive Stmt.AllPaired (S : Pairing) : List Stmt → List Stmt → Prop
  | nil : AllPaired S [] []
  | cons (hs : Stmt.Paired S s s') (hrest : AllPaired S rest rest') :
      AllPaired S (s :: rest) (s' :: rest')
end

section
variable {S : Pairing} {r r' : Rules}

theorem Stmt.AllPaired.of_forall (h : ∀ s ∈ body, Stmt.Paired S s s) :
    Stmt.AllPaired S body body := by
  induction body with
  | nil => exact .nil
  | cons s rest ih =>
    rw [List.forall_mem_cons] at h
    exact .cons h.1 (ih h.2)

theorem Pairing.Keeps.asBranch {m m' : CheckM Unit} (hs : Stmt.Paired S s s')
    (hm : S.Keeps pre post P m m') : S.Keeps pre post P (s.asBranch m) (s'.asBranch m') := by
  cases hs with
  | absent => exact hm
  | block => exact hm
  | _ => exact hm.inPush

mutual
theorem Stmt.Paired.check (h : S.Leaves r r') : Stmt.Paired S s s' →
    S.Steps s.exprAt? 0 s.arity (fun _ => True) (s.check r) (s'.check r')
  | .absent => by
    simp only [Stmt.check]
    exact .pure trivial
  | .fn hhead hbody => by
    simp only [Stmt.check]
    exact h.checkFunction hhead (hbody.checkAll h 0 fun _ _ => rfl)
  | .prototype hhead => by
    simp only [Stmt.check]
    exact h.checkFunction hhead (.pure trivial)
  | .letDecl hp hw hv => by
    simp only [Stmt.check]
    exact h.checkLet hp hw hv rfl
  | .ret hp hv => by
    simp only [Stmt.check]
    exact h.checkReturn hp hv rfl
  | .block hbody => by
    simp only [Stmt.check]
    exact .inPush (hbody.checkAll h 0 fun _ _ => rfl)
  | .ifElse hc hyes hno => by
    simp only [Stmt.check]
    exact .bind (.below (h.checkCondition hc) rfl) fun _ _ =>
      .bind (.below (.asBranch hyes (.stmt (hyes.check h))) rfl) fun _ _ =>
      .below (.asBranch hno (.stmt (hno.check h))) rfl
  | .whileLoop hc hbody => by
    simp only [Stmt.check]
    exact .bind (.below (h.checkCondition hc) rfl) fun _ _ =>
      .below (.asBranch hbody (.stmt (hbody.check h))) rfl
  | @Stmt.Paired.forLoop _ init _ e e' step step' body body' p hinit hc hstep hbody => by
    simp only [Stmt.check]
    refine .inPush (.bind (.below (.stmt (hinit.check h)) rfl) fun _ _ => ?_)
    have hrest : S.Steps (Stmt.forLoop p init e step body).exprAt? 2 4 (fun _ => True)
        (do let _ ← CheckM.below 2 (r.infer? step); CheckM.below 3 (body.check r))
        (do let _ ← CheckM.below 2 (r'.infer? step'); CheckM.below 3 (body'.check r')) :=
      .bind (.below (h.infer? hstep) rfl) fun _ _ => .below (.stmt (hbody.check h)) rfl
    cases hc with
    | absent => exact .skip hrest rfl
    | present hne hne' hc =>
      have hpresent : e.isAbsent = false := Bool.eq_false_iff.mpr (mt Expr.isAbsent_iff.mp hne)
      have hpresent' : e'.isAbsent = false := Bool.eq_false_iff.mpr (mt Expr.isAbsent_iff.mp hne')
      simp only [hpresent, hpresent', Bool.not_false, if_true]
      exact .bind (.below (h.checkCondition hc) rfl) fun _ _ => hrest
  | .expr he => by
    simp only [Stmt.check]
    exact .bind (.below (h.infer he) rfl) fun _ _ => .pure trivial
theorem Stmt.AllPaired.checkAll {places : Path → Option Expr} {body body' : List Stmt}
    (h : S.Leaves r r') : Stmt.AllPaired S body body' → (n : Nat) →
      (∀ i path, places ((i + n) :: path) = body[i]?.bind (·.exprAt? path)) →
      S.Steps places n (body.length + n) (fun _ => True) (Stmt.checkAll r n body)
        (Stmt.checkAll r' n body')
  | .nil, n, _ => by
    simp only [Stmt.checkAll, List.length_nil, Nat.zero_add]
    exact .pure trivial
  | .cons hs hrest, n, hplaces => by
    simp only [Stmt.checkAll, List.length_cons, Nat.succ_add_eq_add_succ]
    exact .bind (.below (.stmt (hs.check h)) (places_head hplaces)) fun _ _ =>
      hrest.checkAll h (n + 1) (places_tail hplaces)
end

theorem Stmt.AllPaired.run {p p' : Program} (hbody : Stmt.AllPaired S p.statements p'.statements)
    (h : S.Leaves o.rules o'.rules) (hc : S.checkers (.fresh o) (.fresh o')) :
    S.Ends (S.children · p.exprAt? p.statements.length) (fun _ => True) true
      (p.run o) (p'.run o') :=
  hbody.checkAll h 0 (fun _ _ => rfl) true _ _ hc S.children_nil

end

-- ---------------------------------------------------------------------------
-- One program
-- ---------------------------------------------------------------------------

def FnHead.annotations (head : FnHead) : List WrittenType :=
  head.params.filterMap (·.written) ++ head.returns.toList

namespace Stmt

mutual
def annotations : Stmt → List WrittenType
  | .absent | .ret .. | .expr .. => []
  | .fn head _ body => head.annotations ++ annotationsIn body
  | .prototype head => head.annotations
  | .letDecl _ _ _ written _ => written.toList
  | .block _ body => annotationsIn body
  | .ifElse _ _ yes no => yes.annotations ++ no.annotations
  | .whileLoop _ _ body => body.annotations
  | .forLoop _ init _ _ body => init.annotations ++ body.annotations
def annotationsIn : List Stmt → List WrittenType
  | [] => []
  | s :: rest => s.annotations ++ annotationsIn rest
end

end Stmt

namespace Pairing

def alike : Pairing where
  toRecord := .trivial
  name := id
  expr e e' := e' = e
  written _ := True
  pos _ := True
  checkers c c' := c' = c
  type _ := True
  errors _ _ := True
  inStep := True
  type_unit := trivial
  reset h := by rw [h]
  join h h' := by rw [h, h']
  push h := by rw [h]
  enter _ h := by rw [h]
  pop h := by rw [h]
  rollback h h' := by rw [h, h']
  defineVariable _ h := by rw [h]; rfl
  defineFunction _ _ h := by rw [h]; rfl
  noteFunction _ _ h := by rw [h]; rfl
  returnType? h := by rw [h]

/-- The pairing is one of a program with itself, in which only annotations matter. -/
structure Reflexive (S : Pairing) : Prop where
  name : S.name = id
  expr : ∀ e, S.expr e e
  pos : ∀ p, S.pos p

namespace Reflexive

variable {S : Pairing}

theorem ifAny (h : S.Reflexive) (e : Expr) : S.IfAny e e := .same fun _ => h.expr e

theorem head (h : S.Reflexive) {head : FnHead} (hw : ∀ a ∈ head.annotations, S.written a) :
    S.Head head where
  params p hp := ⟨h.pos p.pos, fun a ha =>
    hw a (List.mem_append_left _ (List.mem_filterMap.mpr ⟨p, hp, ha⟩))⟩
  returns a ha := hw a (List.mem_append_right _ (Option.mem_toList.mpr ha))

theorem rename (h : S.Reflexive) (head : FnHead) : head.rename S.name = head := by
  rw [h.name, head.rename_id]

mutual
theorem stmt (h : S.Reflexive) : (s : Stmt) → (∀ a ∈ s.annotations, S.written a) →
    Stmt.Paired S s s
  | .absent, _ => .absent
  | .fn head p body, hw => by
    rw [Stmt.annotations, List.forall_mem_append] at hw
    have hpaired := Stmt.Paired.fn (p := p) (h.head hw.1) (h.body body hw.2)
    rwa [h.rename] at hpaired
  | .prototype head, hw => by
    have hpaired := Stmt.Paired.prototype (h.head hw)
    rwa [h.rename] at hpaired
  | .letDecl p x isMut written value, hw => by
    have hname : S.name x = x := by rw [h.name, id]
    simpa only [hname] using Stmt.Paired.letDecl (S := S) (x := x) (h.pos p)
      (fun a ha => hw a (Option.mem_toList.mpr ha)) (h.ifAny value)
  | .ret p value, _ => .ret (h.pos p) (h.ifAny value)
  | .block _ body, hw => .block (h.body body hw)
  | .ifElse _ e yes no, hw => by
    rw [Stmt.annotations, List.forall_mem_append] at hw
    exact .ifElse (h.expr e) (h.stmt yes hw.1) (h.stmt no hw.2)
  | .whileLoop _ e body, hw => .whileLoop (h.expr e) (h.stmt body hw)
  | .forLoop _ init e step body, hw => by
    rw [Stmt.annotations, List.forall_mem_append] at hw
    exact .forLoop (h.stmt init hw.1) (h.ifAny e) (h.ifAny step) (h.stmt body hw.2)
  | .expr _ e, _ => .expr (h.expr e)
theorem body (h : S.Reflexive) : (body : List Stmt) →
    (∀ a ∈ Stmt.annotationsIn body, S.written a) → Stmt.AllPaired S body body
  | [], _ => .nil
  | s :: rest, hw => by
    rw [Stmt.annotationsIn, List.forall_mem_append] at hw
    exact .cons (h.stmt s hw.1) (h.body rest hw.2)
end

end Reflexive

end Pairing

end Lanewise
