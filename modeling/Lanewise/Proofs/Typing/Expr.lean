import Lanewise.Proofs.Context.Laws
import Lanewise.Proofs.Typing.Operator

/-!
# Inferred types

In a context that holds what an environment says (`Models`), `Expr.infer` finds a type for an
expression exactly if the rules derive it (`infer_sound`, `infer_complete`). The derived type is
unique in every environment (`HasType.unique`).
-/

namespace Lanewise

structure Models (c : Context) (Γ : Env) : Prop where
  vars : ∀ name, (c.variableNamed? name).map (·.ty) = Γ.vars name
  fns : ∀ name, c.functionNamed? name = (Γ.fns name).map fun sig => .ofSignature (some sig)
  returns : c.returnType? = Γ.returns

open Inference

-- ---------------------------------------------------------------------------
-- Names
-- ---------------------------------------------------------------------------

section
variable {c : Context} {Γ : Env}

theorem Models.typeOfName_ok (hm : Models c Γ) :
    (c.typeOfName p x).result = .ok t ↔ HasType d Γ (.ident p x) t := by
  have hvar := hm.vars x
  have hfn := hm.fns x
  unfold Context.typeOfName
  cases hv : c.variableNamed? x with
  | some s =>
    rw [hv, Option.map_some] at hvar
    simp only [pure_ok]
    constructor
    · rintro rfl
      exact .var hvar.symm
    · intro h
      cases h with
      | var h => exact Option.some.inj (hvar.trans h)
      | fn h _ => cases hvar.trans h
  | none =>
    rw [hv, Option.map_none] at hvar
    cases hf : Γ.fns x with
    | some sig =>
      rw [hf, Option.map_some] at hfn
      simp only [hfn, pure_ok]
      constructor
      · rintro rfl
        exact .fn hvar.symm hf
      · intro h
        cases h with
        | var h => cases hvar.trans h
        | fn _ h => rw [Option.some.inj (hf.symm.trans h)]
    | none =>
      rw [hf, Option.map_none] at hfn
      simp only [hfn, fail_ok, false_iff]
      intro h
      cases h with
      | var h => cases hvar.trans h
      | fn _ h => cases hf.symm.trans h

theorem Models.callee_ok (hm : Models c Γ) :
    (c.callee pos f).result = .ok sig ↔ Γ.fns f = some sig := by
  unfold Context.callee
  rw [hm.fns f]
  cases Γ.fns f with
  | some other => simp [Ty.ofSignature, Ty.signature?]
  | none =>
    simp only [Option.map_none, Option.bind_none]
    split <;> simp

-- ---------------------------------------------------------------------------
-- Calls
-- ---------------------------------------------------------------------------

def AcceptsCount (variadic : Bool) (params : List Ty) (count : Nat) : Prop :=
  params.length ≤ count ∧ (variadic = true ∨ count = params.length)

theorem checkCount_ok {sig : Signature} :
    (sig.checkCount pos name count).result = .ok u ↔
      AcceptsCount sig.variadic sig.params count := by
  unfold Signature.checkCount AcceptsCount
  cases sig.variadic with
  | true => simp [require_ok]
  | false =>
    simp only [Bool.false_eq_true, if_false, require_ok, beq_iff_eq, false_or]
    omega

theorem ArgsFit.acceptsCount (h : ArgsFit d Γ variadic params es) :
    AcceptsCount variadic params es.length := by
  unfold AcceptsCount
  match h with
  | .nil => exact ⟨Nat.le_refl _, .inr rfl⟩
  | .param _ _ hes =>
    simpa [AcceptsCount] using hes.acceptsCount
  | .further _ _ => exact ⟨Nat.zero_le _, .inl rfl⟩

theorem checkArgument_ok :
    (checkArgument name n params pos t).result = .ok u ↔
      ∀ param ∈ params.head?, param.compatible t = true := by
  cases params <;> simp [checkArgument, require_ok]

-- ---------------------------------------------------------------------------
-- Soundness
-- ---------------------------------------------------------------------------

mutual
theorem infer_sound (hm : Models c Γ) (hΓ : Γ.WellFormed) :
    (e : Expr) → {t : Ty} → (e.infer d c).result = .ok t → HasType d Γ e t
  | .absent, _, h => by simp [Expr.infer] at h
  | .int _ _, _, h => by
    simp only [Expr.infer, noted_ok, pure_ok] at h
    subst h
    exact .int
  | .float _ _, _, h => by
    simp only [Expr.infer, noted_ok, pure_ok] at h
    subst h
    exact .float
  | .bool _ _, _, h => by
    simp only [Expr.infer, noted_ok, pure_ok] at h
    subst h
    exact .bool
  | .string _ _, _, h => by
    simp only [Expr.infer, noted_ok, pure_ok] at h
    subst h
    exact .string
  | .ident _ _, _, h => by
    simp only [Expr.infer, noted_ok] at h
    exact hm.typeOfName_ok.mp h
  | .binary _ _ l r, _, h => by
    simp only [Expr.infer, noted_ok, result_bind_eq_ok, result_below, BinaryOp.typeOf_ok] at h
    obtain ⟨_, hl, _, hr, hop⟩ := h
    exact .binary (infer_sound hm hΓ l hl) (infer_sound hm hΓ r hr) hop
  | .unary _ _ e, _, h => by
    simp only [Expr.infer, noted_ok, result_bind_eq_ok, result_below, UnaryOp.typeOf_ok] at h
    obtain ⟨_, he, hop⟩ := h
    exact .unary (infer_sound hm hΓ e he) hop
  | .call _ f args, _, h => by
    cases f with
    | ident _ name =>
      simp only [Expr.infer, noted_ok, result_bind_eq_ok, hm.callee_ok, checkCount_ok,
        pure_ok] at h
      obtain ⟨sig, hf, _, _, _, hcount, _, hargs, rfl⟩ := h
      exact .call hf (inferArgs_sound hm hΓ args hcount hargs)
    | _ => simp [Expr.infer, noted_ok] at h
  | .group _ e, _, h => by
    simp only [Expr.infer, noted_ok, result_below] at h
    exact .group (infer_sound hm hΓ e h)
  | .index _ o i, _, h => by
    simp only [Expr.infer, noted_ok, result_bind_eq_ok, result_below, typeOfElement_ok] at h
    obtain ⟨_, ho, _, hi, rfl, hint⟩ := h
    exact .index (infer_sound hm hΓ o ho) (infer_sound hm hΓ i hi) hint
  | .field _ _ _, _, h => by simp [Expr.infer] at h
  | .vector _ es name, _, h => by
    by_cases hname : name = ""
    · subst hname
      cases es with
      | nil => simp [Expr.infer, noted_ok] at h
      | cons e es =>
        simp only [Expr.infer, noted_ok, bne_self_eq_false, Bool.false_eq_true, if_false,
          result_bind_eq_ok, result_below, inferredKind_ok, Detector.requireKind_ok, pure_ok] at h
        obtain ⟨t, he, k, ⟨hk, hmask, hcount, hlane⟩, _, hd, _, hes, rfl⟩ := h
        rw [Ty.ofKind_of_isValid hk]
        exact .inferredVector (infer_sound hm hΓ e he) hmask hcount hlane hd
          (inferElements_sound hm hΓ es hes)
    · simp only [infer_writtenVector hname, noted_ok, result_bind_eq_ok, writtenKind_ok,
        Detector.requireKind_ok, pure_ok] at h
      obtain ⟨k, ⟨hk, hcount⟩, _, hd, _, hes, rfl⟩ := h
      rw [Ty.ofKind_of_isValid (VectorKind.isValid_of_ofName? hk)]
      exact .writtenVector hname hk hcount hd (inferElements_sound hm hΓ es hes)
  | .lanewise _ _ l r, _, h => by
    simp only [Expr.infer, noted_ok, result_bind_eq_ok, result_below, requireVector_ok] at h
    obtain ⟨_, hl, _, ⟨k, rfl⟩, _, hr, _, ⟨k', rfl⟩, hop⟩ := h
    have hl := infer_sound hm hΓ l hl
    have hr := infer_sound hm hΓ r hr
    rw [LaneOp.typeOf_ok (hl.wellFormed hΓ) (hr.wellFormed hΓ)] at hop
    obtain ⟨hop, hwidth, hlane, rfl⟩ := hop
    exact .lanewise hl hr hop hwidth hlane
  | .broadcast _ _ s v, _, h => by
    simp only [Expr.infer, noted_ok, result_bind_eq_ok, result_below, requireVector_ok] at h
    obtain ⟨_, hs, _, hv, _, ⟨k, rfl⟩, hop⟩ := h
    have hv := infer_sound hm hΓ v hv
    rw [LaneOp.typeOfBroadcast_ok (hv.wellFormed hΓ)] at hop
    obtain ⟨hscalar, hop, hfit, rfl⟩ := hop
    exact .broadcast (infer_sound hm hΓ s hs) hv hscalar hop hfit
  | .reduce _ _ e, _, h => by
    simp only [Expr.infer, noted_ok, result_bind_eq_ok, result_below, requireVector_ok] at h
    obtain ⟨_, he, _, ⟨k, rfl⟩, hop⟩ := h
    have he := infer_sound hm hΓ e he
    rw [ReduceOp.typeOf_ok (he.wellFormed hΓ)] at hop
    obtain ⟨hop, rfl⟩ := hop
    exact .reduce he hop
  | .dot _ l r, _, h => by
    simp only [Expr.infer, noted_ok, result_bind_eq_ok, result_below, requireVector_ok] at h
    obtain ⟨_, hl, _, ⟨k, rfl⟩, _, hr, _, ⟨k', rfl⟩, hop⟩ := h
    have hl := infer_sound hm hΓ l hl
    rw [typeOfDot_ok (hl.wellFormed hΓ)] at hop
    obtain ⟨rfl, rfl⟩ := hop
    exact .dot hl (infer_sound hm hΓ r hr)
  | .swizzle _ e _, _, h => by
    simp only [Expr.infer, noted_ok, result_bind_eq_ok, result_below, requireVector_ok,
      pure_ok] at h
    obtain ⟨_, he, _, ⟨k, rfl⟩, rfl⟩ := h
    exact .swizzle (infer_sound hm hΓ e he)
  | .load _ e name, _, h => by
    simp only [Expr.infer, noted_ok, result_bind_eq_ok, result_below, loadedKind_ok,
      Detector.requireKind_ok, pure_ok] at h
    obtain ⟨_, he, k, ⟨target, rfl, hk⟩, _, hd, rfl⟩ := h
    have he := infer_sound hm hΓ e he
    rw [Ty.ofKind_of_isValid (VectorKind.isValid_of_isSupported hd)]
    obtain ⟨hname, hk⟩ | ⟨rfl, rfl⟩ := hk
    · exact .writtenLoad he hname hk hd
    · exact .inferredLoad he hd
  | .store _ a e, _, h => by
    simp only [Expr.infer, noted_ok, result_bind_eq_ok, result_below, pointee_ok,
      requireVector_ok, pure_ok] at h
    obtain ⟨_, ha, target, rfl, _, he, _, ⟨k, rfl⟩, rfl⟩ := h
    exact .store (infer_sound hm hΓ a ha) (infer_sound hm hΓ e he)
theorem inferArgs_sound (hm : Models c Γ) (hΓ : Γ.WellFormed) {name : String} {variadic : Bool} :
    (es : List Expr) → {params : List Ty} → {n : Nat} → AcceptsCount variadic params es.length →
      (Expr.inferArgs d c name n params es).result = .ok u → ArgsFit d Γ variadic params es
  | [], params, _, hcount, _ => by
    obtain rfl := List.length_eq_zero_iff.mp (Nat.le_zero.mp hcount.1)
    exact .nil
  | e :: es, params, _, hcount, h => by
    simp only [Expr.inferArgs, result_bind_eq_ok, result_below, checkArgument_ok] at h
    obtain ⟨_, he, _, hfit, hes⟩ := h
    have he := infer_sound hm hΓ e he
    cases params with
    | nil =>
      obtain rfl : variadic = true := hcount.2.resolve_right (by simp)
      exact .further he (inferArgs_sound hm hΓ es ⟨Nat.zero_le _, .inl rfl⟩ hes)
    | cons param params =>
      refine .param he (hfit param rfl) (inferArgs_sound hm hΓ es ?_ hes)
      simpa [AcceptsCount] using hcount
theorem inferElements_sound (hm : Models c Γ) (hΓ : Γ.WellFormed) {lane : Ty} :
    (es : List Expr) → {n : Nat} →
      (Expr.inferElements d c lane n es).result = .ok u → ElementsFit d Γ lane es
  | [], _, _ => .nil
  | e :: es, _, h => by
    simp only [Expr.inferElements, result_bind_eq_ok, result_below, require_ok] at h
    obtain ⟨_, he, _, hfit, hes⟩ := h
    exact .cons (infer_sound hm hΓ e he) hfit (inferElements_sound hm hΓ es hes)
end

-- ---------------------------------------------------------------------------
-- Completeness
-- ---------------------------------------------------------------------------

mutual
theorem infer_complete (hm : Models c Γ) (hΓ : Γ.WellFormed) :
    HasType d Γ e t → (e.infer d c).result = .ok t
  | .int | .float | .bool | .string => by simp [Expr.infer, noted_ok]
  | .var h => by
    rw [Expr.infer, noted_ok]
    exact (hm.typeOfName_ok (d := d)).mpr (.var h)
  | .fn hv hf => by
    rw [Expr.infer, noted_ok]
    exact (hm.typeOfName_ok (d := d)).mpr (.fn hv hf)
  | .binary hl hr hop => by
    simp only [Expr.infer, noted_ok, result_bind_eq_ok, result_below, BinaryOp.typeOf_ok]
    exact ⟨_, infer_complete hm hΓ hl, _, infer_complete hm hΓ hr, hop⟩
  | .unary he hop => by
    simp only [Expr.infer, noted_ok, result_bind_eq_ok, result_below, UnaryOp.typeOf_ok]
    exact ⟨_, infer_complete hm hΓ he, hop⟩
  | .call hf hargs => by
    simp only [Expr.infer, noted_ok, result_bind_eq_ok, hm.callee_ok, checkCount_ok, pure_ok]
    exact ⟨_, hf, (), note_ok, (), hargs.acceptsCount, (), inferArgs_complete hm hΓ hargs, rfl⟩
  | .group he => by
    simp only [Expr.infer, noted_ok, result_below]
    exact infer_complete hm hΓ he
  | .index ho hi hint => by
    simp only [Expr.infer, noted_ok, result_bind_eq_ok, result_below, typeOfElement_ok]
    exact ⟨_, infer_complete hm hΓ ho, _, infer_complete hm hΓ hi, rfl, hint⟩
  | .writtenVector hname hk hcount hd hes => by
    simp only [infer_writtenVector hname, noted_ok, result_bind_eq_ok, writtenKind_ok,
      Detector.requireKind_ok, pure_ok]
    exact ⟨_, ⟨hk, hcount⟩, (), hd, (), inferElements_complete hm hΓ hes,
      Ty.ofKind_of_isValid (VectorKind.isValid_of_ofName? hk)⟩
  | .inferredVector he hmask hcount hlane hd hes => by
    have hk := VectorKind.isValid_of_isSupported hd
    simp only [Expr.infer, noted_ok, bne_self_eq_false, Bool.false_eq_true, if_false,
      result_bind_eq_ok, result_below, inferredKind_ok, Detector.requireKind_ok, pure_ok]
    exact ⟨_, infer_complete hm hΓ he, _, ⟨hk, hmask, hcount, hlane⟩, (), hd, (),
      inferElements_complete hm hΓ hes, Ty.ofKind_of_isValid hk⟩
  | .lanewise hl hr hop hwidth hlane => by
    simp only [Expr.infer, noted_ok, result_bind_eq_ok, result_below, requireVector_ok]
    exact ⟨_, infer_complete hm hΓ hl, (), ⟨_, rfl⟩, _, infer_complete hm hΓ hr, (), ⟨_, rfl⟩,
      (LaneOp.typeOf_ok (hl.wellFormed hΓ) (hr.wellFormed hΓ)).mpr ⟨hop, hwidth, hlane, rfl⟩⟩
  | .broadcast hs hv hscalar hop hfit => by
    simp only [Expr.infer, noted_ok, result_bind_eq_ok, result_below, requireVector_ok]
    exact ⟨_, infer_complete hm hΓ hs, _, infer_complete hm hΓ hv, (), ⟨_, rfl⟩,
      (LaneOp.typeOfBroadcast_ok (hv.wellFormed hΓ)).mpr ⟨hscalar, hop, hfit, rfl⟩⟩
  | .reduce he hop => by
    simp only [Expr.infer, noted_ok, result_bind_eq_ok, result_below, requireVector_ok]
    exact ⟨_, infer_complete hm hΓ he, (), ⟨_, rfl⟩,
      (ReduceOp.typeOf_ok (he.wellFormed hΓ)).mpr ⟨hop, rfl⟩⟩
  | .dot hl hr => by
    simp only [Expr.infer, noted_ok, result_bind_eq_ok, result_below, requireVector_ok]
    exact ⟨_, infer_complete hm hΓ hl, (), ⟨_, rfl⟩, _, infer_complete hm hΓ hr, (), ⟨_, rfl⟩,
      (typeOfDot_ok (hl.wellFormed hΓ)).mpr ⟨rfl, rfl⟩⟩
  | .swizzle he => by
    simp only [Expr.infer, noted_ok, result_bind_eq_ok, result_below, requireVector_ok, pure_ok]
    exact ⟨_, infer_complete hm hΓ he, (), ⟨_, rfl⟩, rfl⟩
  | .writtenLoad he hname hk hd => by
    simp only [Expr.infer, noted_ok, result_bind_eq_ok, result_below, loadedKind_ok,
      Detector.requireKind_ok, pure_ok]
    exact ⟨_, infer_complete hm hΓ he, _, ⟨_, rfl, .inl ⟨hname, hk⟩⟩, (), hd,
      Ty.ofKind_of_isValid (VectorKind.isValid_of_isSupported hd)⟩
  | .inferredLoad he hd => by
    simp only [Expr.infer, noted_ok, result_bind_eq_ok, result_below, loadedKind_ok,
      Detector.requireKind_ok, pure_ok]
    exact ⟨_, infer_complete hm hΓ he, _, ⟨_, rfl, .inr ⟨trivial, rfl⟩⟩, (), hd,
      Ty.ofKind_of_isValid (VectorKind.isValid_of_isSupported hd)⟩
  | .store ha he => by
    simp only [Expr.infer, noted_ok, result_bind_eq_ok, result_below, pointee_ok,
      requireVector_ok, pure_ok]
    exact ⟨_, infer_complete hm hΓ ha, _, rfl, _, infer_complete hm hΓ he, (), ⟨_, rfl⟩, trivial⟩
theorem inferArgs_complete (hm : Models c Γ) (hΓ : Γ.WellFormed) :
    ArgsFit d Γ variadic params es → (Expr.inferArgs d c name n params es).result = .ok ()
  | .nil => rfl
  | .param he hfit hes => by
    simp only [Expr.inferArgs, result_bind_eq_ok, result_below, checkArgument_ok]
    refine ⟨_, infer_complete hm hΓ he, (), ?_, inferArgs_complete hm hΓ hes⟩
    rintro _ ⟨⟩
    exact hfit
  | .further he hes => by
    simp only [Expr.inferArgs, result_bind_eq_ok, result_below, checkArgument_ok]
    exact ⟨_, infer_complete hm hΓ he, (), fun _ h => (nomatch h), inferArgs_complete hm hΓ hes⟩
theorem inferElements_complete (hm : Models c Γ) (hΓ : Γ.WellFormed) :
    ElementsFit d Γ lane es → (Expr.inferElements d c lane n es).result = .ok ()
  | .nil => rfl
  | .cons he hfit hes => by
    simp only [Expr.inferElements, result_bind_eq_ok, result_below, require_ok]
    exact ⟨_, infer_complete hm hΓ he, (), hfit, inferElements_complete hm hΓ hes⟩
end

theorem infer_ok (hm : Models c Γ) (hΓ : Γ.WellFormed) :
    (e.infer d c).result = .ok t ↔ HasType d Γ e t :=
  ⟨infer_sound hm hΓ e, infer_complete hm hΓ⟩

-- ---------------------------------------------------------------------------
-- Uniqueness
-- ---------------------------------------------------------------------------

theorem BinaryOp.Gives.unique (h : BinaryOp.Gives op left right t)
    (h' : BinaryOp.Gives op left right t') : t = t' := by
  have first : (op.typeOf .none left right).result = .ok t := BinaryOp.typeOf_ok.mpr h
  have second : (op.typeOf .none left right).result = .ok t' := BinaryOp.typeOf_ok.mpr h'
  exact Except.ok.inj (first.symm.trans second)

theorem UnaryOp.Gives.unique (h : UnaryOp.Gives operand op t) (h' : UnaryOp.Gives operand op t') :
    t = t' := by
  cases h <;> cases h' <;> rfl

theorem HasType.unique : HasType d Γ e t → HasType d Γ e t' → t = t'
  | .int, .int | .float, .float | .bool, .bool | .string, .string => rfl
  | .var h, .var h' => Option.some.inj (h.symm.trans h')
  | .var h, .fn hv _ => nomatch h.symm.trans hv
  | .fn hv _, .var h => nomatch h.symm.trans hv
  | .fn _ hf, .fn _ hf' => by rw [Option.some.inj (hf.symm.trans hf')]
  | .binary hl hr hop, .binary hl' hr' hop' => by
    obtain rfl := hl.unique hl'
    obtain rfl := hr.unique hr'
    exact hop.unique hop'
  | .unary he hop, .unary he' hop' => by
    obtain rfl := he.unique he'
    exact hop.unique hop'
  | .call hf _, .call hf' _ => by rw [Option.some.inj (hf.symm.trans hf')]
  | .group he, .group he' => he.unique he'
  | .index ho _ _, .index ho' _ _ => Ty.array.inj (ho.unique ho')
  | .writtenVector _ hk _ _ _, .writtenVector _ hk' _ _ _ => by
    rw [Option.some.inj (hk.symm.trans hk')]
  | .writtenVector hne _ _ _ _, .inferredVector .. => (hne rfl).elim
  | .inferredVector .., .writtenVector hne _ _ _ _ => (hne rfl).elim
  | .inferredVector he hmask hcount hlane hd _,
      .inferredVector he' hmask' hcount' hlane' hd' _ => by
    obtain rfl := he.unique he'
    rw [VectorKind.eq_of_lanes (VectorKind.isValid_of_isSupported hd)
      (VectorKind.isValid_of_isSupported hd') (hmask.trans hmask'.symm)
      (hcount.symm.trans hcount') (hlane.trans hlane'.symm)]
  | .lanewise hl _ _ _ _, .lanewise hl' _ _ _ _ => hl.unique hl'
  | .broadcast _ hv _ _ _, .broadcast _ hv' _ _ _ => hv.unique hv'
  | .reduce he _, .reduce he' _ => by rw [Ty.vector.inj (he.unique he')]
  | .dot hl _, .dot hl' _ => by rw [Ty.vector.inj (hl.unique hl')]
  | .swizzle he, .swizzle he' => he.unique he'
  | .writtenLoad _ _ hk _, .writtenLoad _ _ hk' _ => by rw [Option.some.inj (hk.symm.trans hk')]
  | .writtenLoad _ hne _ _, .inferredLoad .. => (hne rfl).elim
  | .inferredLoad .., .writtenLoad _ hne _ _ => (hne rfl).elim
  | .inferredLoad he _, .inferredLoad he' _ => Ty.reference.inj (he.unique he')
  | .store _ _, .store _ _ => rfl

end

end Lanewise
