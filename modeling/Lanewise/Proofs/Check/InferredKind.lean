import Lanewise.Proofs.Ty.Compatible
import Lanewise.Proofs.Typing.Printed
import Lanewise.Proofs.WellFormed.Program

/-!
# Inferred and written vector kinds

A literal or a load may name its vector kind or leave it to be inferred. `kinds_agree`: at every
point of a check the two give the same type and record the same types, provided the first element of
a literal has the lane type of the kind, which is what inference goes by. A load that is refused is
refused with the same error.

The two ways through a literal differ in the order of their steps and in that only a written kind
has its first element compared with the lanes, so both are taken apart into what they need and what
they record (`inferred_eq_ok`, `written_eq_ok`) and the parts compared.
-/

namespace Lanewise

open Inference

section
variable {d : Detector} {c : Context} {e : Expr} {es : List Expr} {k : VectorKind}

-- ---------------------------------------------------------------------------
-- Steps
-- ---------------------------------------------------------------------------

theorem Inference.Silent.bind_of_ok {m : Inference α} (hm : m.Silent) (h : m.result = .ok a)
    (f : α → Inference β) : m >>= f = f a := by
  rw [Inference.bind_of_ok h, show m.types = [] from hm, List.nil_append]

theorem Inference.Silent.bind_eq_ok {m : Inference α} {f : α → Inference β} (hm : m.Silent) :
    m >>= f = ⟨log, .ok b⟩ ↔ ∃ a, m.result = .ok a ∧ f a = ⟨log, .ok b⟩ := by
  cases h : m.result with
  | ok a => simp [hm.bind_of_ok h]
  | error e => simp [bind_of_error h]

theorem Inference.eq_of_result {m : Inference α} (h : m.result = .ok a) : m = ⟨m.types, .ok a⟩ := by
  rw [← h]

theorem pure_eq_ok : (pure a : Inference α) = ⟨log, .ok b⟩ ↔ a = b ∧ log = [] := by
  constructor
  · rintro ⟨⟩
    exact ⟨rfl, rfl⟩
  · rintro ⟨rfl, rfl⟩
    rfl

theorem child_bind_eq_ok {f : Ty → Inference α} :
    (e.infer d c).below n >>= f = ⟨log, .ok a⟩ ↔
      ∃ t first others, e.infer d c = ⟨first, .ok t⟩ ∧ f t = ⟨others, .ok a⟩ ∧
        log = first.below n ++ others := by
  simp only [bind_eq_ok, below_eq_ok]
  constructor
  · rintro ⟨t, _, others, ⟨first, hfirst, rfl⟩, hothers, rfl⟩
    exact ⟨t, first, others, hfirst, hothers, rfl⟩
  · rintro ⟨t, first, others, hfirst, hothers, rfl⟩
    exact ⟨t, _, others, ⟨first, hfirst, rfl⟩, hothers, rfl⟩

theorem inferElements_cons_eq_ok :
    Expr.inferElements d c lane n (e :: es) = ⟨log, .ok ()⟩ ↔
      ∃ t first others, e.infer d c = ⟨first, .ok t⟩ ∧
        (lane.compatible t = true ∧ Expr.inferElements d c lane (n + 1) es = ⟨others, .ok ()⟩) ∧
        log = first.below n ++ others := by
  simp only [Expr.inferElements, child_bind_eq_ok, Silent.require.bind_eq_ok, require_ok,
    exists_const]

-- ---------------------------------------------------------------------------
-- Literals
-- ---------------------------------------------------------------------------

theorem elements_eq_ok :
    (do d.requireKind p k; Expr.inferElements d c k.lane n es; return Ty.ofKind k) =
        (⟨log, .ok t⟩ : Inference Ty) ↔
      d.isSupported k = true ∧ Expr.inferElements d c k.lane n es = ⟨log, .ok ()⟩ ∧
        t = .ofKind k := by
  simp only [Detector.requireKind, Silent.require.bind_eq_ok, require_ok, exists_const,
    Inference.bind_eq_ok, pure_eq_ok]
  refine and_congr_right fun _ => ?_
  constructor
  · rintro ⟨_, first, _, hfirst, ⟨rfl, rfl⟩, rfl⟩
    exact ⟨by rwa [List.append_nil], rfl⟩
  · rintro ⟨helements, rfl⟩
    exact ⟨(), log, [], helements, ⟨rfl, rfl⟩, (List.append_nil log).symm⟩

theorem written_eq_ok (hname : VectorKind.ofName? name = some k) :
    Expr.infer d c (.vector p es name) = ⟨log, .ok t⟩ ↔
      ∃ inner, (es.length = k.width ∧ d.isSupported k = true ∧
        Expr.inferElements d c k.lane 0 es = ⟨inner, .ok ()⟩ ∧ t = .ofKind k) ∧
        log = inner ++ ownType t := by
  have hne : name ≠ "" := by
    rintro rfl
    cases VectorKind.ofName?_empty.symm.trans hname
  rw [infer_writtenVector hne]
  simp only [noted_eq_ok, Silent.writtenKind.bind_eq_ok, writtenKind_ok, elements_eq_ok, hname,
    Option.some.injEq]
  constructor
  · rintro ⟨inner, ⟨_, ⟨rfl, hcount⟩, hrest⟩, hlog⟩
    exact ⟨inner, ⟨hcount, hrest⟩, hlog⟩
  · rintro ⟨inner, ⟨hcount, hrest⟩, hlog⟩
    exact ⟨inner, ⟨k, ⟨rfl, hcount⟩, hrest⟩, hlog⟩

theorem inferred_eq_ok :
    Expr.infer d c (.vector p (e :: es) "") = ⟨log, .ok t⟩ ↔
      ∃ elem first others, e.infer d c = ⟨first, .ok elem⟩ ∧
        (∃ k : VectorKind, (k.isValid = true ∧ k.isMask = false ∧ es.length + 1 = k.width ∧
            k.lane = elem.canonical) ∧ d.isSupported k = true ∧
          Expr.inferElements d c k.lane 1 es = ⟨others, .ok ()⟩ ∧ t = .ofKind k) ∧
        log = first.below 0 ++ others ++ ownType t := by
  simp only [Expr.infer, bne_self_eq_false, Bool.false_eq_true, if_false, noted_eq_ok,
    child_bind_eq_ok, Silent.inferredKind.bind_eq_ok, inferredKind_ok, elements_eq_ok]
  constructor
  · rintro ⟨_, ⟨elem, first, others, helem, hkind, rfl⟩, hlog⟩
    exact ⟨elem, first, others, helem, hkind, hlog⟩
  · rintro ⟨elem, first, others, helem, hkind, hlog⟩
    exact ⟨_, ⟨elem, first, others, helem, hkind, rfl⟩, hlog⟩

/-- A type that stands for the lane type of a kind may be an element of it. -/
theorem compatible_lane (hk : k.isValid = true) (h : k.lane = t.canonical) :
    k.lane.compatible t = true := by
  obtain ⟨s, hs, -⟩ := VectorKind.lane_eq_scalar hk
  have hcanonical : k.lane.canonical = k.lane := by rw [hs]; rfl
  rw [← Ty.compatible_canonical, hcanonical, ← h]
  exact Ty.compatible_self (by rw [hs]; rfl)

theorem ofKind_inj {k l : VectorKind} (hk : k.isValid = true) (h : Ty.ofKind k = .ofKind l) :
    k = l := by
  cases hl : l.isValid with
  | true =>
    rw [Ty.ofKind_of_isValid hk, Ty.ofKind_of_isValid hl] at h
    cases h
    rfl
  | false =>
    rw [Ty.ofKind_of_isValid hk, Ty.ofKind, hl] at h
    cases h

/-- A literal gets a kind by inference just if it may be written with this kind, which is no mask,
and its first element has the lane type. What is recorded is the same. -/
theorem inferred_iff_written (hname : VectorKind.ofName? name = some k) :
    Expr.infer d c (.vector p es "") = ⟨log, .ok (.ofKind k)⟩ ↔
      Expr.infer d c (.vector p es name) = ⟨log, .ok (.ofKind k)⟩ ∧ k.isMask = false ∧
        ∃ e rest elem, es = e :: rest ∧ (e.infer d c).result = .ok elem ∧
          elem.canonical = k.lane := by
  have hk := VectorKind.isValid_of_ofName? hname
  cases es with
  | nil =>
    constructor
    · intro h
      simp only [Expr.infer, bne_self_eq_false, Bool.false_eq_true, if_false, noted_eq_ok] at h
      obtain ⟨_, hfail, -⟩ := h
      cases hfail
    · rintro ⟨-, -, _, _, _, ⟨⟩, -⟩
  | cons e es =>
    rw [inferred_eq_ok, written_eq_ok hname]
    simp only [inferElements_cons_eq_ok]
    constructor
    · rintro ⟨elem, first, others, helem, ⟨k', ⟨hk', hmask, hcount, hlane⟩, hd, hothers, ht⟩, hlog⟩
      obtain rfl := ofKind_inj hk ht
      have hfits := compatible_lane hk hlane
      exact ⟨⟨_, ⟨hcount, hd, ⟨elem, first, others, helem, ⟨hfits, hothers⟩, rfl⟩, trivial⟩, hlog⟩,
        hmask, e, es, elem, rfl, by rw [helem], hlane.symm⟩
    · rintro ⟨⟨_, ⟨hcount, hd, ⟨elem, first, others, helem, ⟨-, hothers⟩, rfl⟩, -⟩, hlog⟩, hmask,
        _, _, elem', ⟨⟩, helem', hlane⟩
      rw [helem] at helem'
      cases helem'
      exact ⟨elem, first, others, helem,
        ⟨k, ⟨hk, hmask, hcount, hlane.symm⟩, hd, hothers, rfl⟩, hlog⟩

-- ---------------------------------------------------------------------------
-- Loads
-- ---------------------------------------------------------------------------

/-- Once the kind is found, a load does not depend on how. -/
theorem infer_load (haddress : (e.infer d c).result = .ok address)
    (hkind : (loadedKind p name address).result = .ok k) :
    Expr.infer d c (.load p e name) = noted (do
      let _ ← (e.infer d c).below 0
      d.requireKind p k
      return .ofKind k) := by
  have hbelow : ((e.infer d c).below 0).result = .ok address := haddress
  rw [Expr.infer, Inference.bind_of_ok hbelow, Inference.bind_of_ok hbelow,
    Silent.loadedKind.bind_of_ok hkind]

theorem result_load (haddress : (e.infer d c).result = .ok address)
    (hkind : (loadedKind p name address).result = .ok k) :
    (Expr.infer d c (.load p e name)).result =
      if d.isSupported k = true then .ok (.ofKind k)
      else .error ⟨p, .unsupportedKind k d.name (d.explain k)⟩ := by
  have hbelow : ((e.infer d c).below 0).result = .ok address := haddress
  rw [infer_load haddress hkind, Inference.bind_of_ok hbelow, Detector.requireKind]
  cases d.isSupported k with
  | true => exact noted_ok.mpr rfl
  | false => rfl

end

-- ---------------------------------------------------------------------------
-- Checkers
-- ---------------------------------------------------------------------------

theorem Checker.checkExpr_eq (c : Checker) (r : Rules) (e : Expr) :
    c.checkExpr r e = ((e.infer r.detector c.context).result,
      { c with types := c.types ++ (e.infer r.detector c.context).types }) :=
  Rules.run_infer r e c

theorem isValid_of_wellFormed (h : (Ty.ofKind k).WellFormed) : k.isValid = true := by
  cases hk : k.isValid with
  | true => rfl
  | false =>
    rw [Ty.ofKind, hk] at h
    exact h.elim

theorem VectorKind.loadedKind_text (hk : VectorKind.isValid k = true) :
    (loadedKind p k.text (.reference (.vector k))).result = .ok k := by
  rw [loadedKind_ok]
  have hname := VectorKind.ofName?_text hk
  have hne : k.text ≠ "" := by
    intro hempty
    rw [hempty, VectorKind.ofName?_empty] at hname
    cases hname
  exact ⟨_, rfl, .inl ⟨hne, hname⟩⟩

/-- At every point of a check: a literal that gets a kind by inference does the same if this kind is
written, with the same types for all its parts. A literal with a written kind other than a mask, the
first element of which has the lane type, gets this kind by inference as well. And a load through a
reference to a vector does the same whether or not the kind of this vector is written, also when the
target refuses the kind. -/
theorem kinds_agree (o : CheckOptions) (before : List Stmt) (s : Stmt) (c : Checker)
    (h : Visits o.rules s ((Checker.fresh o).after o.rules before) c) :
    (∀ p es k, (c.checkExpr o.rules (.vector p es "")).1 = .ok (.ofKind k) →
      c.checkExpr o.rules (.vector p es k.text) = c.checkExpr o.rules (.vector p es "")) ∧
    (∀ p e es k name t elem, VectorKind.ofName? name = some k → k.isMask = false →
      (c.checkExpr o.rules (.vector p (e :: es) name)).1 = .ok t →
      (c.checkExpr o.rules e).1 = .ok elem → elem.canonical = k.lane →
      t = .ofKind k ∧
        c.checkExpr o.rules (.vector p (e :: es) "") =
          c.checkExpr o.rules (.vector p (e :: es) name)) ∧
    (∀ p e k, (c.checkExpr o.rules e).1 = .ok (.reference (.ofKind k)) →
      c.checkExpr o.rules (.load p e k.text) = c.checkExpr o.rules (.load p e "") ∧
      (c.checkExpr o.rules (.load p e "")).1 =
        if o.detector.isSupported k = true then .ok (.ofKind k)
        else .error ⟨p, .unsupportedKind k o.detector.name (o.detector.explain k)⟩) := by
  have hc : c.WellFormed := h.wellFormed ((Checker.WellFormed.fresh o).after before)
  -- Whatever an expression is typed as is well formed, so kinds in it are valid.
  have found {e : Expr} {t : Ty} (ht : (e.infer o.detector c.context).result = .ok t) :
      t.WellFormed := (infer_yields hc.context e).result t ht
  simp only [Checker.checkExpr_eq, CheckOptions.rules]
  refine ⟨fun p es k hresult => ?_, fun p e es k name t elem hname hmask hresult helem hlane => ?_,
    fun p e k haddress => ?_⟩
  · have hname := VectorKind.ofName?_text (isValid_of_wellFormed (found hresult))
    have hwritten := ((inferred_iff_written hname).mp (eq_of_result hresult)).1
    rw [hwritten, hresult]
  · have hwritten := eq_of_result hresult
    obtain ⟨_, ⟨-, -, -, rfl⟩, -⟩ := (written_eq_ok hname).mp hwritten
    have hinferred :=
      (inferred_iff_written hname).mpr ⟨hwritten, hmask, e, es, elem, rfl, helem, hlane⟩
    exact ⟨rfl, by rw [hinferred, hresult]⟩
  · have hreference := found haddress
    have hk := isValid_of_wellFormed (k := k) hreference
    rw [Ty.ofKind_of_isValid hk] at haddress
    have hinferred : (loadedKind p "" (.reference (.vector k))).result = .ok k := rfl
    rw [infer_load haddress (VectorKind.loadedKind_text hk), ← infer_load haddress hinferred]
    exact ⟨rfl, result_load haddress hinferred⟩

def narrowTarget : CheckOptions := { detector := .baseline .x86_64 }

def behindWideReference : Checker :=
  (Checker.fresh narrowTarget).after narrowTarget.rules
    [.letDecl default "r" false (some ⟨"&f32x16", false, default⟩) .absent]

/-- Two integers, and a load that the target refuses. -/
theorem kinds_agree_wideReference :
    (behindWideReference.checkExpr narrowTarget.rules
        (.vector default [.int default 1, .int default 2] "i64x2") =
      behindWideReference.checkExpr narrowTarget.rules
        (.vector default [.int default 1, .int default 2] "")) ∧
    (behindWideReference.checkExpr narrowTarget.rules
        (.vector default [.int default 1, .int default 2] "")).1 = .ok (.vector .i64x2) ∧
    (behindWideReference.checkExpr narrowTarget.rules
        (.load default (.ident default "r") "f32x16") =
      behindWideReference.checkExpr narrowTarget.rules (.load default (.ident default "r") "")) ∧
    (behindWideReference.checkExpr narrowTarget.rules
        (.load default (.ident default "r") "")).1.toBool = false := by
  obtain ⟨literal, converse, load⟩ := kinds_agree narrowTarget
    [.letDecl default "r" false (some ⟨"&f32x16", false, default⟩) .absent] .absent
    behindWideReference .start
  have hwritten := converse default (.int default 1) [.int default 2] .i64x2 "i64x2"
    (.vector .i64x2) .i64 (by decide +kernel) rfl (by decide +kernel) rfl rfl
  have hload := load default (.ident default "r") .f32x16 (by decide +kernel)
  refine ⟨literal default _ .i64x2 (by decide +kernel), ?_, hload.1, ?_⟩
  · rw [hwritten.2]
    decide +kernel
  · rw [hload.2]
    decide +kernel

end Lanewise
