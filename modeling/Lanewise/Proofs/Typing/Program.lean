import Lanewise.Proofs.Typing.Decides

/-!
# Accepted programs

`check_iff_typed`: a program is accepted exactly if the rules derive it, and then the names that
can be seen behind it are those of the environment that the rules end with. Statements are checked
against a context that changes all the time and judged in environments that never do; each check
decides the judgement of its rule (`check_decides`).
-/

namespace Lanewise

open CheckM

section
variable {r : Rules} {S : Setting} {Γ : Env}

-- ---------------------------------------------------------------------------
-- Parts of statements
-- ---------------------------------------------------------------------------

theorem Judges.infer (e : Expr) :
    Judges r S (r.infer e) Γ fun t => HasType S.detector Γ e t := by
  refine .of_declares (.infer r e) fun c hc t => ?_
  rw [← infer_ok hc.models hc.wellFormed, ← hc.detector, Rules.run_infer]
  simp

theorem Judges.infer? (e : Expr) :
    Judges r S (r.infer? e) Γ fun o =>
      e = .absent ∧ none = o ∨ ∃ t, HasType S.detector Γ e t ∧ some t = o := by
  cases e with
  | absent =>
    refine (Judges.pure none).congr fun o => ⟨fun h => .inl ⟨rfl, h⟩, ?_⟩
    rintro (⟨-, h⟩ | ⟨t, h, -⟩)
    · exact h
    · cases h
  | _ =>
    refine ((Judges.infer _).bind fun t _ => .pure (some t)).congr fun o => ?_
    simp

theorem Judges.resolve (a : WrittenType) :
    Judges r S (r.resolve a) Γ fun t => a.Denotes S.names t := by
  refine .of_declares (.resolve r a) fun c hc t => ?_
  rw [← hc.denotes_iff, ← WrittenType.resolve_ok, Rules.run_resolve]
  simp

theorem Judges.resolve? (a : Option WrittenType) :
    Judges r S (r.resolve? a) Γ fun o => Option.Rel (fun a t => a.Denotes S.names t) a o := by
  cases a with
  | none =>
    refine (Judges.pure none).congr fun o => ?_
    cases o <;> simp
  | some a =>
    refine ((Judges.resolve a).bind fun t _ => .pure (some t)).congr fun o => ?_
    cases o <;> simp

theorem Judges.resolveParams (function : String) : (params : List Param) →
    Judges r S (r.resolveParams function params) Γ fun types => ParamsDenote S.names params types
  | [] => by
    refine (Judges.pure []).congr fun types => ⟨?_, ?_⟩
    · rintro rfl
      exact .nil
    · rintro ⟨⟩
      rfl
  | p :: params => by
    unfold Rules.resolveParams
    split
    · rename_i hwritten
      refine .fail ?_
      rintro _ (_ | ⟨hwritten', -, -⟩)
      cases hwritten.symm.trans hwritten'
    · rename_i a hwritten
      refine ((Judges.resolve a).bind fun t _ =>
        (Judges.resolveParams function params).bind fun types _ => .pure (t :: types)).congr ?_
      intro types
      constructor
      · rintro ⟨t, ha, rest, hrest, rfl⟩
        exact .cons hwritten ha hrest
      · rintro (_ | ⟨hwritten', ha, hrest⟩)
        cases hwritten.symm.trans hwritten'
        exact ⟨_, ha, _, hrest, rfl⟩

theorem Judges.checkCondition (e : Expr) :
    Judges r S (r.checkCondition statement e) Γ fun _ => Γ.Condition S.detector e :=
  (Judges.infer e).bind fun t _ => .failUnless t.isCondition

/-- An annotation decides the type of a variable, and else its value does. -/
theorem Judges.variableType (declared value : Option Ty) :
    Judges r S (Rules.variableType pos name declared value) Γ fun t =>
      declared = some t ∧ (∀ actual ∈ value, t.compatible actual = true) ∨
      declared = none ∧ value = some t := by
  unfold Rules.variableType
  split
  · split
    · exact (Judges.pure _).congr (by simp_all)
    · exact .fail (by simp_all)
  · exact (Judges.pure _).congr (by simp)
  · exact (Judges.pure _).congr (by simp)
  · exact .fail (by simp)

theorem Judges.checkReturn (value : Expr) :
    Judges r S (r.checkReturn pos value) Γ fun _ => ∃ t, Γ.returns = some t ∧
      (value = .absent ∧ t.compatible .unit = true ∨
        ∃ actual, HasType S.detector Γ value actual ∧ t.compatible actual = true) := by
  refine Decides.bind_context fun c hc => ?_
  rw [hc.models.returns]
  split
  · rename_i hret
    exact Judges.fail (by simp [hret])
  · rename_i t hret
    refine (((Judges.infer? value).below 0).bind fun o _ =>
      .failUnless (t.compatible (o.getD .unit))).congr fun _ => ?_
    simp only [hret, Option.some.injEq, exists_eq_left']
    constructor
    · rintro ⟨_, ⟨rfl, rfl⟩ | ⟨actual, ht, rfl⟩, hfit⟩
      · exact .inl ⟨rfl, hfit⟩
      · exact .inr ⟨actual, ht, hfit⟩
    · rintro (⟨rfl, hfit⟩ | ⟨actual, ht, hfit⟩)
      · exact ⟨none, .inl ⟨rfl, rfl⟩, hfit⟩
      · exact ⟨some actual, .inr ⟨actual, ht, rfl⟩, hfit⟩

-- ---------------------------------------------------------------------------
-- Declarations
-- ---------------------------------------------------------------------------

theorem InStep.defineParams (h : InStep r S c Γ) (htypes : Ty.AllWellFormed types) :
    InStep r S ((params.zip types).foldl (fun c (p, ty) =>
      let isMut := p.written.any (·.isMut)
      c.defineVariable { name := p.name, ty, isMut, kind := .parameter }) c)
      (Γ.bindParams params types) := by
  induction params generalizing c Γ types with
  | nil => exact h
  | cons p params ih =>
    cases types with
    | nil => exact h
    | cons t types => exact ih (h.defineVariable htypes.1) htypes.2

theorem hasSignature_iff {head : FnHead} :
    head.HasSignature names sig ↔ ∃ params ret, ParamsDenote names head.params params ∧
      Option.Rel (fun a t => a.Denotes names t) head.returns ret ∧
      sig = ⟨params, ret.getD .unit, false⟩ := by
  constructor
  · intro h
    obtain ⟨params, result, variadic⟩ := sig
    obtain rfl : variadic = false := h.fixed
    cases hret : head.returns with
    | none =>
      obtain rfl : result = .unit := h.unit hret
      exact ⟨params, none, h.params, .none, rfl⟩
    | some a => exact ⟨params, some result, h.params, .some (h.returns a hret), rfl⟩
  · rintro ⟨params, ret, hparams, hret, rfl⟩
    refine ⟨hparams, fun a ha => ?_, fun hnone => ?_, rfl⟩
    · rw [ha] at hret
      obtain ⟨h⟩ := hret
      exact h
    · rw [hnone] at hret
      cases hret
      rfl

theorem Decides.functionBody {body : CheckM Unit} {sig : Signature} {J : Env → Prop}
    (hsig : sig.WellFormed) (hgrows : Grows body)
    (hbody : Decides r S body ((Γ.bindFunction name sig).inFunction params sig) fun _ => J) :
    Decides r S (do
      CheckM.atomically do
        CheckM.changeContext (·.defineFunction name (some sig))
        CheckM.inScope (·.enter sig.ret) do
          Rules.defineParams params sig.params
          body
      CheckM.noteFunction name sig) Γ fun _ Γ' =>
        (∃ Γ'', J Γ'') ∧ Γ' = Γ.bindFunction name sig := by
  have inner := (Grows.defineParams params sig.params).bind fun _ => hgrows
  have scope := Decides.inScope (.bind_changeContext (fun c hc => hc.defineParams hsig.1) hbody)
    (fun c hc => hc.enter hsig.2) (inner.inScope _ fun c _ => c.pop_enter_extend)
  have made := Decides.atomically
    (.bind_changeContext (fun c hc => InStep.defineFunction hc hsig) scope)
  refine .congr (made.bind fun _ Γ' _ => Judges.noteFunction) fun _ Γ' => ?_
  simp

theorem Decides.checkFunction {body : CheckM Unit} {J : Signature → Env → Prop} (head : FnHead)
    (hgrows : Grows body)
    (hbody : ∀ sig : Signature, head.HasSignature S.names sig →
      Decides r S body ((Γ.bindFunction head.name sig).inFunction head.params sig)
        fun _ => J sig) :
    Decides r S (r.checkFunction head body) Γ fun _ Γ' =>
      ∃ sig, head.HasSignature S.names sig ∧ (∃ Γ'', J sig Γ'') ∧
        Γ' = Γ.bindFunction head.name sig := by
  refine .congr (Judges.bind_decides (.resolveParams head.name head.params) fun params hparams =>
    Judges.bind_decides (.resolve? head.returns) fun ret hret =>
      have hsig := hasSignature_iff.mpr ⟨params, ret, hparams, hret, rfl⟩
      .functionBody hsig.wellFormed hgrows (hbody _ hsig)) fun _ Γ' => ?_
  constructor
  · rintro ⟨params, hparams, ret, hret, hrest⟩
    exact ⟨_, hasSignature_iff.mpr ⟨params, ret, hparams, hret, rfl⟩, hrest⟩
  · rintro ⟨sig, hsig, hrest⟩
    obtain ⟨params, ret, hparams, hret, rfl⟩ := hasSignature_iff.mp hsig
    exact ⟨params, hparams, ret, hret, hrest⟩

theorem Decides.checkLet (value : Expr) :
    Decides r S (r.checkLet pos name isMut written value) Γ fun _ Γ' =>
      StmtTyped S Γ (.letDecl pos name isMut written value) Γ' := by
  refine .of_wellFormed fun hΓ => ?_
  have present : ∀ t, HasType S.detector Γ value t →
      (some t).filter (!·.isAbsent) = some t := by
    intro t ht
    simp [(ht.wellFormed hΓ).not_absent]
  refine .congr (Judges.bind_decides (.resolve? written) fun declared hdeclared =>
    ((Judges.infer? value).below 0).bind_decides fun actual hactual =>
      (Judges.variableType declared _).bind_decides fun t ht =>
        Decides.changeContext fun c hc => hc.defineVariable ?_) fun _ Γ' => ⟨?_, ?_⟩
  · rcases ht with ⟨rfl, -⟩ | ⟨-, h⟩
    · obtain ⟨ha⟩ := hdeclared
      exact Spells.wellFormed ha
    · rcases hactual with ⟨-, rfl⟩ | ⟨u, hu, rfl⟩
      · cases h
      · rw [present u hu] at h
        cases h
        exact hu.wellFormed hΓ
  · rintro ⟨declared, hdeclared, actual, hactual, t, ht, rfl⟩
    rcases hactual with ⟨rfl, rfl⟩ | ⟨u, hu, rfl⟩
    · rcases ht with ⟨rfl, -⟩ | ⟨-, h⟩
      · obtain ⟨ha⟩ := hdeclared
        exact .letWritten ha
      · cases h
    · rw [present u hu] at ht
      rcases ht with ⟨rfl, hfit⟩ | ⟨rfl, h⟩
      · obtain ⟨ha⟩ := hdeclared
        exact .letChecked ha hu (hfit u rfl)
      · cases hdeclared
        cases h
        exact .letInferred hu
  · intro h
    cases h with
    | letWritten ha =>
      exact ⟨some _, .some ha, none, .inl ⟨rfl, rfl⟩, _, .inl ⟨rfl, fun _ h => (nomatch h)⟩, rfl⟩
    | letChecked ha he hfit =>
      refine ⟨some _, .some ha, some _, .inr ⟨_, he, rfl⟩, _, .inl ⟨rfl, ?_⟩, rfl⟩
      rw [present _ he]
      rintro _ ⟨⟩
      exact hfit
    | letInferred he =>
      exact ⟨none, .none, some _, .inr ⟨_, he, rfl⟩, _, .inr ⟨rfl, present _ he⟩, rfl⟩

-- ---------------------------------------------------------------------------
-- Statements
-- ---------------------------------------------------------------------------

theorem Judges.asBranch (s : Stmt)
    (hs : Decides r S (s.check r) Γ fun _ Γ' => StmtTyped S Γ s Γ') :
    Judges r S (s.asBranch (s.check r)) Γ fun _ => ∃ Γ', StmtTyped S Γ s Γ' := by
  have hdeclares := s.check_declares r
  cases s with
  | absent => exact hs.judges hdeclares
  | block _ _ => exact hs.judges hdeclares
  | _ => exact hs.inPush hdeclares.grows

theorem Decides.forLoop {condition step : Expr} {init body : Stmt}
    (hinit : Decides r S (init.check r) Γ fun _ Γ' => StmtTyped S Γ init Γ')
    (hbody : ∀ Γ', Decides r S (body.check r) Γ' fun _ Γ'' => StmtTyped S Γ' body Γ'') :
    Decides r S (do
      CheckM.below 0 (init.check r)
      if !condition.isAbsent then CheckM.below 1 (r.checkCondition .forLoop condition)
      let _ ← CheckM.below 2 (r.infer? step)
      CheckM.below 3 (body.check r)) Γ fun _ Γ₂ => ∃ Γ₁, StmtTyped S Γ init Γ₁ ∧
        (condition = .absent ∨ Γ₁.Condition S.detector condition) ∧
        (step = .absent ∨ ∃ t, HasType S.detector Γ₁ step t) ∧ StmtTyped S Γ₁ body Γ₂ := by
  have rest : ∀ Γ₁, Decides r S (do
      let _ ← CheckM.below 2 (r.infer? step)
      CheckM.below 3 (body.check r)) Γ₁ fun _ Γ₂ =>
        (step = .absent ∨ ∃ t, HasType S.detector Γ₁ step t) ∧ StmtTyped S Γ₁ body Γ₂ := by
    intro Γ₁
    refine .congr (((Judges.infer? step).below 2).bind_decides fun _ _ => (hbody Γ₁).below 3)
      fun _ Γ₂ => ⟨?_, ?_⟩
    · rintro ⟨_, ⟨hstep, -⟩ | ⟨t, hstep, -⟩, h⟩
      · exact ⟨.inl hstep, h⟩
      · exact ⟨.inr ⟨t, hstep⟩, h⟩
    · rintro ⟨hstep | ⟨t, hstep⟩, h⟩
      · exact ⟨none, .inl ⟨hstep, rfl⟩, h⟩
      · exact ⟨some t, .inr ⟨t, hstep, rfl⟩, h⟩
  refine .congr (.bind (L := fun _ Γ₁ _ Γ₂ =>
    (condition = .absent ∨ Γ₁.Condition S.detector condition) ∧
      (step = .absent ∨ ∃ t, HasType S.detector Γ₁ step t) ∧ StmtTyped S Γ₁ body Γ₂)
    (hinit.below 0) fun _ Γ₁ _ => ?_) fun _ Γ₂ => by simp
  split
  · rename_i hpresent
    have hne : condition ≠ .absent := by
      rintro rfl
      cases hpresent
    refine .congr (((Judges.checkCondition condition).below 1).bind_decides fun _ _ => rest Γ₁) ?_
    simp [hne]
  · rename_i habsent
    obtain rfl : condition = .absent := Expr.isAbsent_iff.mp (by simpa using habsent)
    refine .congr (rest Γ₁) ?_
    simp

end

mutual
theorem check_decides (r : Rules) (S : Setting) : (s : Stmt) → (Γ : Env) →
    Decides r S (s.check r) Γ fun _ Γ' => StmtTyped S Γ s Γ'
  | .absent, Γ => by
    simp only [Stmt.check]
    refine .congr .skip fun _ Γ' => ⟨?_, ?_⟩
    · rintro rfl
      exact .absent
    · rintro ⟨⟩
      rfl
  | .fn head _ body, Γ => by
    simp only [Stmt.check]
    refine .congr (.checkFunction head (Stmt.checkAll_grows r 0 body) fun sig _ =>
      checkAll_decides r S 0 body _) fun _ Γ' => ⟨?_, ?_⟩
    · rintro ⟨sig, hsig, ⟨Γ'', hbody⟩, rfl⟩
      exact .fn hsig hbody
    · intro h
      cases h with
      | fn hsig hbody => exact ⟨_, hsig, ⟨_, hbody⟩, rfl⟩
  | .prototype head, Γ => by
    simp only [Stmt.check]
    refine .congr (.checkFunction head (Declares.pure ()).grows fun sig _ => .skip)
      fun _ Γ' => ⟨?_, ?_⟩
    · rintro ⟨sig, hsig, -, rfl⟩
      exact .prototype hsig
    · intro h
      cases h with
      | prototype hsig => exact ⟨_, hsig, ⟨_, rfl⟩, rfl⟩
  | .letDecl _ _ _ _ value, Γ => by
    simp only [Stmt.check]
    exact .checkLet value
  | .ret _ value, Γ => by
    simp only [Stmt.check]
    refine .congr (Judges.checkReturn value) fun _ Γ' => ⟨?_, ?_⟩
    · rintro ⟨⟨t, hret, ⟨rfl, hfit⟩ | ⟨actual, he, hfit⟩⟩, rfl⟩
      · exact .retUnit hret hfit
      · exact .ret hret he hfit
    · intro h
      cases h with
      | ret hret he hfit => exact ⟨⟨_, hret, .inr ⟨_, he, hfit⟩⟩, rfl⟩
      | retUnit hret hfit => exact ⟨⟨_, hret, .inl ⟨rfl, hfit⟩⟩, rfl⟩
  | .block _ body, Γ => by
    simp only [Stmt.check]
    refine .congr ((checkAll_decides r S 0 body Γ).inPush (Stmt.checkAll_grows r 0 body))
      fun _ Γ' => ⟨?_, ?_⟩
    · rintro ⟨⟨Γ'', hbody⟩, rfl⟩
      exact .block hbody
    · intro h
      cases h with
      | block hbody => exact ⟨⟨_, hbody⟩, rfl⟩
  | .ifElse _ condition yes no, Γ => by
    simp only [Stmt.check]
    refine .congr (((Judges.checkCondition condition).below 0).bind fun _ _ =>
      ((Judges.asBranch yes (check_decides r S yes Γ)).below 1).bind fun _ _ =>
        (Judges.asBranch no (check_decides r S no Γ)).below 2) fun _ Γ' => ⟨?_, ?_⟩
    · rintro ⟨⟨_, hc, _, ⟨_, hyes⟩, _, hno⟩, rfl⟩
      exact .ifElse hc hyes hno
    · intro h
      cases h with
      | ifElse hc hyes hno => exact ⟨⟨(), hc, (), ⟨_, hyes⟩, _, hno⟩, rfl⟩
  | .whileLoop _ condition body, Γ => by
    simp only [Stmt.check]
    refine .congr (((Judges.checkCondition condition).below 0).bind fun _ _ =>
      (Judges.asBranch body (check_decides r S body Γ)).below 1) fun _ Γ' => ⟨?_, ?_⟩
    · rintro ⟨⟨_, hc, _, hbody⟩, rfl⟩
      exact .whileLoop hc hbody
    · intro h
      cases h with
      | whileLoop hc hbody => exact ⟨⟨(), hc, _, hbody⟩, rfl⟩
  | .forLoop pos init condition step body, Γ => by
    have declares := Stmt.check_declares r (.forLoop pos init condition step body)
    simp only [Stmt.check] at declares ⊢
    refine .congr (Decides.inScope (.forLoop (check_decides r S init Γ) (check_decides r S body))
      (fun _ => InStep.push) declares) fun _ Γ' => ⟨?_, ?_⟩
    · rintro ⟨⟨_, _, hinit, hc, hstep, hbody⟩, rfl⟩
      exact .forLoop hinit hc hstep hbody
    · intro h
      cases h with
      | forLoop hinit hc hstep hbody => exact ⟨⟨_, _, hinit, hc, hstep, hbody⟩, rfl⟩
  | .expr _ value, Γ => by
    simp only [Stmt.check]
    refine .congr (((Judges.infer value).below 0).bind fun _ _ => Judges.pure ())
      fun _ Γ' => ⟨?_, ?_⟩
    · rintro ⟨⟨t, he, -⟩, rfl⟩
      exact .expr he
    · intro h
      cases h with
      | expr he => exact ⟨⟨_, he, rfl⟩, rfl⟩
theorem checkAll_decides (r : Rules) (S : Setting) (n : Nat) : (body : List Stmt) → (Γ : Env) →
    Decides r S (Stmt.checkAll r n body) Γ fun _ Γ' => StmtsTyped S Γ body Γ'
  | [], Γ => by
    simp only [Stmt.checkAll]
    refine .congr .skip fun _ Γ' => ⟨?_, ?_⟩
    · rintro rfl
      exact .nil
    · rintro ⟨⟩
      rfl
  | s :: rest, Γ => by
    simp only [Stmt.checkAll]
    refine .congr (((check_decides r S s Γ).below n).bind fun _ Γ' _ =>
      checkAll_decides r S (n + 1) rest Γ') fun _ Γ'' => ⟨?_, ?_⟩
    · rintro ⟨_, Γ', hs, hrest⟩
      exact .cons hs hrest
    · intro h
      cases h with
      | cons hs hrest => exact ⟨(), _, hs, hrest⟩
end

-- ---------------------------------------------------------------------------
-- Programs
-- ---------------------------------------------------------------------------

theorem InStep.fresh (o : CheckOptions) :
    InStep o.rules o.setting (Checker.fresh o).context .initial := by
  simp only [Checker.fresh, Context.foldl_declareOpaque]
  refine ⟨rfl, fun name => ?_, ⟨fun name => ?_, fun name => ?_, rfl⟩, .initial⟩
  · simp [Rules.names, NameRule.allows, CheckOptions.rules, CheckOptions.setting, Context.initial]
  · exact congrArg (Option.map _) (congrFun Context.variableNamed?_initial name)
  · exact congrFun Context.functionNamed?_initial name

/-- A program is accepted exactly if the rules derive it, and then the variables and functions that
can be seen behind it are those of the last environment. No expression has two types. -/
theorem check_iff_typed (o : CheckOptions) (p : Program) :
    ((∃ c, p.check o = .ok c) ↔ ∃ Γ, StmtsTyped o.setting .initial p.statements Γ) ∧
    (∀ c Γ, p.check o = .ok c → StmtsTyped o.setting .initial p.statements Γ →
      Lists c.context.visibleVariables Γ.vars ∧
      Lists c.context.visibleFunctions fun name =>
        (Γ.fns name).map fun sig => .ofSignature (some sig)) ∧
    ∀ Γ e t t', HasType o.detector Γ e t → HasType o.detector Γ e t' → t = t' := by
  have decides := checkAll_decides o.rules o.setting 0 p.statements .initial
  have start := InStep.fresh o
  refine ⟨⟨?_, ?_⟩, ?_, fun _ _ _ _ => HasType.unique⟩
  · rintro ⟨c, hc⟩
    obtain ⟨Γ, hΓ, -⟩ := decides.sound start (Program.check_ok.mp hc)
    exact ⟨Γ, hΓ⟩
  · rintro ⟨Γ, hΓ⟩
    obtain ⟨c, hc, -⟩ := decides.complete (a := ()) start hΓ
    exact ⟨c, Program.check_ok.mpr hc⟩
  · intro c Γ hc hΓ
    obtain ⟨c', hc', hstep⟩ := decides.complete (a := ()) start hΓ
    obtain ⟨-, rfl⟩ := Prod.mk.inj ((Program.check_ok.mp hc).symm.trans hc')
    rw [← funext hstep.models.vars, ← funext hstep.models.fns]
    exact ⟨c.context.visibleVariables_lists, c.context.visibleFunctions_lists⟩

-- A function sees itself, but nothing behind a block sees what the block declares.
example :
    let i64 : WrittenType := ⟨"i64", false, default⟩
    let head : FnHead := ⟨default, "f", [⟨"n", some i64, default⟩], some i64⟩
    let call : Expr := .call default (.ident default "f") [.ident default "n"]
    let inBlock : Stmt := .block default [.letDecl default "x" false none (.int default 1)]
    let o : CheckOptions := { detector := .ofFeatures .x86_64 [] }
    (Program.check ⟨"", [.fn head default [.ret default call]]⟩ o).toBool = true ∧
      (Program.check ⟨"", [inBlock, .expr default (.ident default "x")]⟩ o).toBool = false := by
  decide +kernel

end Lanewise
