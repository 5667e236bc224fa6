import Lanewise.Proofs.Context.Laws
import Lanewise.Proofs.Typing.Operator

/-!
# Well-formed types from expressions

In a context that holds well-formed types only, typing an expression finds no others, also if it
ends in an error and leaves the types of some operands behind (`infer_yields`).
-/

namespace Lanewise

open Inference

-- ---------------------------------------------------------------------------
-- Contexts
-- ---------------------------------------------------------------------------

theorem Context.named_of_typeOfName {c : Context} (h : (c.typeOfName p x).result = .ok t) :
    (∃ s, c.variableNamed? x = some s ∧ s.ty = t) ∨ c.functionNamed? x = some t := by
  unfold Context.typeOfName at h
  split at h
  · rename_i s hs
    exact .inl ⟨s, hs, pure_ok.mp h⟩
  · split at h
    · rename_i u hu
      exact .inr (pure_ok.mp h ▸ hu)
    · exact (fail_ok h).elim

theorem Context.functionNamed?_of_callee {c : Context} (h : (c.callee p f).result = .ok sig) :
    c.functionNamed? f = some (.ofSignature (some sig)) := by
  unfold Context.callee at h
  split at h
  · rename_i found hfound
    obtain rfl := pure_ok.mp h
    obtain ⟨t, ht, hsig⟩ := Option.bind_eq_some_iff.mp hfound
    cases t with
    | function params ret variadic =>
      cases hsig
      exact ht
    | _ => cases hsig
  · split at h <;> exact (fail_ok h).elim

/-- Every binding, shadowed ones included, and everything that a return has to give. -/
structure Context.WellFormed (c : Context) : Prop where
  symbols : ∀ s ∈ c.symbols, s.ty.WellFormed
  frames : ∀ f ∈ c.frames, ∀ t, f.returns = some t → t.WellFormed

namespace Context.WellFormed

variable {c : Context} {s : Symbol} {sig : Signature}

theorem initial : Context.initial.WellFormed := by
  refine ⟨fun s hs => ?_, fun _ h => (nomatch h)⟩
  simp only [Context.initial, Context.builtins, functionSymbol, List.map_cons, List.map_nil,
    List.mem_cons, List.not_mem_nil, or_false] at hs
  rcases hs with rfl | rfl | rfl <;>
    simp [Ty.ofSignature, Ty.WellFormed, Ty.AllWellFormed]

theorem define (h : c.WellFormed) (hs : s.ty.WellFormed) : (c.define s).WellFormed := by
  refine ⟨fun other hother => ?_, h.frames⟩
  rcases List.mem_cons.mp hother with rfl | hold
  · exact hs
  · exact h.symbols other hold

theorem defineVariable (h : c.WellFormed) (hs : s.ty.WellFormed) :
    (c.defineVariable s).WellFormed := by
  rw [defineVariable_eq]
  exact h.define (by rwa [ty_asVariable])

theorem defineFunction (h : c.WellFormed) (hsig : sig.WellFormed) :
    (c.defineFunction name (some sig)).WellFormed := h.define hsig

theorem push (h : c.WellFormed) : c.push.WellFormed := by
  refine ⟨h.symbols, fun f hf t ht => ?_⟩
  rcases List.mem_cons.mp hf with rfl | hold
  · cases ht
  · exact h.frames f hold t ht

theorem enter (h : c.WellFormed) (hret : ret.WellFormed) : (c.enter ret).WellFormed := by
  refine ⟨h.symbols, fun f hf t ht => ?_⟩
  rcases List.mem_cons.mp hf with rfl | hold
  · simp only [hret.not_absent, Bool.false_eq_true, if_false, Option.some.injEq] at ht
    exact ht ▸ hret
  · exact h.frames f hold t ht

theorem keep (h : c.WellFormed) (n : Nat) : (c.keep n).WellFormed :=
  ⟨fun s hs => h.symbols s (List.mem_of_mem_drop hs), h.frames⟩

theorem pop (h : c.WellFormed) : c.pop.WellFormed := by
  unfold Context.pop
  split
  · exact h
  · rename_i frame outer hframes
    refine ⟨(h.keep frame.start).symbols, fun f hf => h.frames f ?_⟩
    rw [hframes]
    exact List.mem_cons_of_mem _ hf

theorem rollback (h : c.WellFormed) : (c.rollback n).WellFormed := by
  unfold Context.rollback
  split
  · exact h
  · exact h.keep _

theorem functionNamed? (h : c.WellFormed) (ht : c.functionNamed? name = some t) :
    t.WellFormed := by
  obtain ⟨s, hs, rfl⟩ := Option.map_eq_some_iff.mp ht
  exact h.symbols s (List.mem_of_find?_eq_some hs)

theorem typeOfName (h : c.WellFormed) (ht : (c.typeOfName pos name).result = .ok t) :
    t.WellFormed := by
  obtain ⟨s, hs, rfl⟩ | hf := Context.named_of_typeOfName ht
  · exact h.symbols s (List.mem_of_find?_eq_some hs)
  · exact h.functionNamed? hf

theorem callee (h : c.WellFormed) (hsig : (c.callee pos name).result = .ok sig) :
    sig.WellFormed := h.functionNamed? (Context.functionNamed?_of_callee hsig)

end Context.WellFormed

-- ---------------------------------------------------------------------------
-- Inferences
-- ---------------------------------------------------------------------------

/-- All types that an inference finds are well formed, and its result, if it has one, is as `P`
says. -/
structure Inference.Yields (P : α → Prop) (m : Inference α) : Prop where
  types : ∀ entry ∈ m.types, entry.2.WellFormed
  result : ∀ a, m.result = .ok a → P a

namespace Inference.Yields

variable {P : α → Prop} {Q : β → Prop} {m : Inference α} {f : α → Inference β}

theorem silent (hm : m.Silent) (h : ∀ a, m.result = .ok a → P a) : m.Yields P := by
  refine ⟨fun entry hentry => ?_, h⟩
  rw [hm] at hentry
  cases hentry

theorem pure (h : P a) : (pure a : Inference α).Yields P :=
  .silent (.pure a) fun _ ha => pure_ok.mp ha ▸ h

theorem fail : (fail pos fault : Inference α).Yields P := .silent .fail fun _ h => (fail_ok h).elim

theorem bind (hm : m.Yields P) (hf : ∀ a, P a → (f a).Yields Q) : (m >>= f).Yields Q := by
  cases h : m.result with
  | error e =>
    rw [bind_of_error h]
    exact ⟨hm.types, fun _ h => (nomatch h)⟩
  | ok a =>
    have hrest := hf a (hm.result a h)
    rw [bind_of_ok h]
    refine ⟨fun entry hentry => ?_, hrest.result⟩
    rcases List.mem_append.mp hentry with hfirst | hsecond
    · exact hm.types entry hfirst
    · exact hrest.types entry hsecond

theorem below (hm : m.Yields P) (n : Nat) : (m.below n).Yields P := by
  refine ⟨fun entry hentry => ?_, hm.result⟩
  obtain ⟨inner, hinner, rfl⟩ := List.mem_map.mp hentry
  exact hm.types inner hinner

theorem note (ht : t.WellFormed) : (note path t).Yields fun _ => True := by
  refine ⟨fun entry hentry => ?_, fun _ _ => trivial⟩
  simp only [Inference.note, ht.not_absent, Bool.false_eq_true, if_false,
    List.mem_singleton] at hentry
  exact hentry ▸ ht

theorem noted {m : Inference Ty} (hm : m.Yields Ty.WellFormed) : m.noted.Yields Ty.WellFormed :=
  hm.bind fun _ ht => (note ht).bind fun _ _ => .pure ht

end Inference.Yields

-- ---------------------------------------------------------------------------
-- Expressions
-- ---------------------------------------------------------------------------

section
variable {d : Detector} {c : Context}

theorem Inference.Yields.requireVector :
    (requireVector pos place t).Yields fun _ => ∃ k, t = .vector k :=
  .silent .require fun _ => requireVector_ok.mp

theorem Inference.Yields.requireKind :
    (d.requireKind pos k).Yields fun _ => k.isValid = true :=
  .silent .require fun _ hd => VectorKind.isValid_of_isSupported (Detector.requireKind_ok.mp hd)

theorem Inference.Yields.ofKind (hk : VectorKind.isValid k = true) :
    (Pure.pure (Ty.ofKind k) : Inference Ty).Yields Ty.WellFormed := by
  rw [Ty.ofKind_of_isValid hk]
  exact .pure hk

mutual
theorem infer_yields (hc : c.WellFormed) : (e : Expr) → (e.infer d c).Yields Ty.WellFormed
  | .absent => by
    simp only [Expr.infer]
    exact .fail
  | .int _ _ | .float _ _ | .bool _ _ | .string _ _ => by
    simp only [Expr.infer]
    exact .noted (.pure trivial)
  | .ident _ _ => by
    simp only [Expr.infer]
    exact .noted (.silent (.typeOfName c) fun t => hc.typeOfName)
  | .binary _ op l r => by
    simp only [Expr.infer]
    refine .noted (.bind (.below (infer_yields hc l) 0) fun left hl =>
      .bind (.below (infer_yields hc r) 1) fun right hr => .silent (.binaryOp op) fun t ht => ?_)
    exact (BinaryOp.typeOf_ok.mp ht).wellFormed hl
  | .unary _ op e => by
    simp only [Expr.infer]
    refine .noted (.bind (.below (infer_yields hc e) 0) fun operand ho =>
      .silent (.unaryOp op) fun t ht => ?_)
    exact (UnaryOp.typeOf_ok.mp ht).wellFormed ho
  | .call _ f args => by
    cases f with
    | ident _ name =>
      simp only [Expr.infer]
      exact .noted (.bind (.silent (.callee c) fun sig => hc.callee) fun sig hsig =>
        .bind (.note hsig) fun _ _ =>
        .bind (.silent (.checkCount sig) fun _ _ => trivial) fun _ _ =>
        .bind (inferArgs_yields hc args) fun _ _ => .pure hsig.result)
    | _ =>
      simp only [Expr.infer]
      exact .noted .fail
  | .group _ e => by
    simp only [Expr.infer]
    exact .noted (.below (infer_yields hc e) 0)
  | .index _ o i => by
    simp only [Expr.infer]
    refine .noted (.bind (.below (infer_yields hc o) 0) fun object ho =>
      .bind (.below (infer_yields hc i) 1) fun offset hi => .silent .element fun t ht => ?_)
    obtain ⟨rfl, -⟩ := typeOfElement_ok.mp ht
    exact Ty.wellFormed_array.mp ho
  | .field _ _ _ => by
    simp only [Expr.infer]
    exact .fail
  | .vector _ es name => by
    by_cases hname : name = ""
    · subst hname
      cases es with
      | nil =>
        simp only [Expr.infer]
        exact .noted .fail
      | cons e es =>
        simp only [Expr.infer, bne_self_eq_false, Bool.false_eq_true, if_false]
        exact .noted (.bind (.below (infer_yields hc e) 0) fun _ _ =>
          .bind (.silent .inferredKind fun _ _ => trivial) fun k _ =>
          .bind .requireKind fun _ hk => .bind (inferElements_yields hc es) fun _ _ => .ofKind hk)
    · rw [infer_writtenVector hname]
      exact .noted (.bind (.silent .writtenKind fun _ _ => trivial) fun k _ =>
        .bind .requireKind fun _ hk => .bind (inferElements_yields hc es) fun _ _ => .ofKind hk)
  | .lanewise _ op l r => by
    simp only [Expr.infer]
    refine .noted (.bind (.below (infer_yields hc l) 0) fun left hl =>
      .bind .requireVector fun _ hk => .bind (.below (infer_yields hc r) 1) fun right hr =>
      .bind .requireVector fun _ hk' => .silent (.laneOp op) fun t ht => ?_)
    obtain ⟨k, rfl⟩ := hk
    obtain ⟨k', rfl⟩ := hk'
    obtain ⟨-, -, -, rfl⟩ := (LaneOp.typeOf_ok hl hr).mp ht
    exact hl
  | .broadcast _ op s v => by
    simp only [Expr.infer]
    refine .noted (.bind (.below (infer_yields hc s) 0) fun scalar hs =>
      .bind (.below (infer_yields hc v) 1) fun vector hv =>
      .bind .requireVector fun _ hk => .silent (.laneOp_broadcast op) fun t ht => ?_)
    obtain ⟨k, rfl⟩ := hk
    obtain ⟨-, -, -, rfl⟩ := (LaneOp.typeOfBroadcast_ok hv).mp ht
    exact hv
  | .reduce _ op e => by
    simp only [Expr.infer]
    refine .noted (.bind (.below (infer_yields hc e) 0) fun vector hv =>
      .bind .requireVector fun _ hk => .silent (.reduceOp op) fun t ht => ?_)
    obtain ⟨k, rfl⟩ := hk
    obtain ⟨-, rfl⟩ := (ReduceOp.typeOf_ok hv).mp ht
    exact Ty.wellFormed_lane hv
  | .dot _ l r => by
    simp only [Expr.infer]
    refine .noted (.bind (.below (infer_yields hc l) 0) fun left hl =>
      .bind .requireVector fun _ hk => .bind (.below (infer_yields hc r) 1) fun right hr =>
      .bind .requireVector fun _ hk' => .silent .dot fun t ht => ?_)
    obtain ⟨k, rfl⟩ := hk
    obtain ⟨k', rfl⟩ := hk'
    obtain ⟨-, rfl⟩ := (typeOfDot_ok hl).mp ht
    exact Ty.wellFormed_lane hl
  | .swizzle _ e _ => by
    simp only [Expr.infer]
    exact .noted (.bind (.below (infer_yields hc e) 0) fun _ ht =>
      .bind .requireVector fun _ _ => .pure ht)
  | .load _ e name => by
    simp only [Expr.infer]
    exact .noted (.bind (.below (infer_yields hc e) 0) fun _ _ =>
      .bind (.silent .loadedKind fun _ _ => trivial) fun k _ =>
      .bind .requireKind fun _ hk => .ofKind hk)
  | .store _ a e => by
    simp only [Expr.infer]
    exact .noted (.bind (.below (infer_yields hc a) 0) fun _ _ =>
      .bind (.silent .pointee fun _ _ => trivial) fun _ _ =>
      .bind (.below (infer_yields hc e) 1) fun _ _ =>
      .bind .requireVector fun _ _ => .pure trivial)
theorem inferArgs_yields (hc : c.WellFormed) : (es : List Expr) → {params : List Ty} → {n : Nat} →
    (Expr.inferArgs d c name n params es).Yields fun _ => True
  | [], _, _ => by
    simp only [Expr.inferArgs]
    exact .pure trivial
  | e :: es, _, n => by
    simp only [Expr.inferArgs]
    exact .bind (.below (infer_yields hc e) n) fun _ _ =>
      .bind (.silent .checkArgument fun _ _ => trivial) fun _ _ => inferArgs_yields hc es
theorem inferElements_yields (hc : c.WellFormed) {lane : Ty} : (es : List Expr) → {n : Nat} →
    (Expr.inferElements d c lane n es).Yields fun _ => True
  | [], _ => by
    simp only [Expr.inferElements]
    exact .pure trivial
  | e :: es, n => by
    simp only [Expr.inferElements]
    exact .bind (.below (infer_yields hc e) n) fun _ _ =>
      .bind (.silent .require fun _ _ => trivial) fun _ _ => inferElements_yields hc es
end

end

end Lanewise
