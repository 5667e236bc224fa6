import Lanewise.Proofs.Check.Places
import Lanewise.Proofs.Typing.Operator

/-!
# Gates of expressions

The type of an expression for one target next to that for a target that runs every vector. The
first run ends well if the second does and every gate on the way lets it pass, and then both found
the same types (`infer_gated`). What is not a gate does not look at the target at all, so the two
runs go side by side, and the gates are looked at child by child (`Gated`, `passesBetween_append`).
-/

namespace Lanewise

open Inference TypeLog

-- ---------------------------------------------------------------------------
-- Gates
-- ---------------------------------------------------------------------------

/-- The expressions that ask what vectors the target runs. -/
def Expr.isGate : Expr → Bool
  | .vector .. | .load .. => true
  | _ => false

theorem isGate_of_leaf {e : Expr} (hleaf : e.children = []) (hgate : e.isGate = false)
    (path : Path) (g : Expr) (h : e.exprAt? path = some g) : g.isGate = false := by
  cases path with
  | nil =>
    cases h
    exact hgate
  | cons n path => simp [Expr.exprAt?, hleaf] at h

/-- Every gate has a recorded type, which is that of vectors that the target runs. -/
def Passes (d : Detector) (places : Path → Option Expr) (types : Path → Option Ty) : Prop :=
  ∀ path e, places path = some e → e.isGate = true →
    ∃ k, types path = some (.vector k) ∧ d.isSupported k = true

def PassesBetween (d : Detector) (places : Path → Option Expr) (lo hi : Nat) (log : TypeLog) :
    Prop :=
  ∀ n, lo ≤ n → n < hi →
    Passes d (fun path => places (n :: path)) fun path => log.typeAt? (n :: path)

section
variable {d : Detector} {places : Path → Option Expr} {first second log : TypeLog}

theorem PassesBetween.empty : PassesBetween d places n n log := fun _ _ _ => by omega

theorem passesBetween_below :
    PassesBetween d places n (n + 1) (log.below n) ↔
      Passes d (fun path => places (n :: path)) log.typeAt? := by
  constructor
  · intro h
    simpa using h n (Nat.le_refl n) (Nat.lt_succ_self n)
  · intro h i hi hi'
    obtain rfl : i = n := by omega
    simpa using h

theorem passes_iff_passesBetween (hroot : places [] = none)
    (hrest : ∀ n path, hi ≤ n → places (n :: path) = none) :
    Passes d places log.typeAt? ↔ PassesBetween d places 0 hi log := by
  constructor
  · intro h n _ _ path
    exact h (n :: path)
  · intro h path e he hgate
    cases path with
    | nil =>
      rw [hroot] at he
      cases he
    | cons n path =>
      by_cases hn : n < hi
      · exact h n (Nat.zero_le n) hn path e he hgate
      · rw [hrest n path (Nat.le_of_not_lt hn)] at he
        cases he

theorem passesBetween_append (hfirst : Within lo mid first) (hsecond : Within mid hi second) :
    PassesBetween d places lo hi (first ++ second) ↔
      PassesBetween d places lo mid first ∧ PassesBetween d places mid hi second := by
  have hlo := hfirst.ordered
  have hhi := hsecond.ordered
  constructor
  · intro h
    refine ⟨fun n hn hn' => ?_, fun n hn hn' => ?_⟩
    · simpa only [hsecond.typeAt?_append_left hn'] using h n hn (by omega)
    · simpa only [hfirst.typeAt?_append_right hn] using h n (by omega) hn'
  · rintro ⟨h, h'⟩ n hn hn'
    by_cases hmid : n < mid
    · simpa only [hsecond.typeAt?_append_left hmid] using h n hn hmid
    · have hmid := Nat.le_of_not_lt hmid
      simpa only [hfirst.typeAt?_append_right hmid] using h' n hmid hn'

end

-- ---------------------------------------------------------------------------
-- Side by side
-- ---------------------------------------------------------------------------

def Detector.RunsEveryKind (d : Detector) : Prop :=
  ∀ k : VectorKind, k.isValid = true → d.isSupported k = true

def Runs (d : Detector) (t : Ty) : Prop := ∃ k, t = .vector k ∧ d.isSupported k = true

/-- Both inferences look at the children from number `lo` up to `hi`. The first one ends well
exactly if the second does, all gates below these children pass, and the result is as asked for. -/
structure Gated (d : Detector) (places : Path → Option Expr) (lo hi : Nat) (asked : α → Prop)
    (m m' : Inference α) : Prop where
  within : ∀ {log a}, m' = ⟨log, .ok a⟩ → Within lo hi log
  ok_iff : ∀ {log a},
    m = ⟨log, .ok a⟩ ↔ m' = ⟨log, .ok a⟩ ∧ PassesBetween d places lo hi log ∧ asked a

def GatedNode (d : Detector) (e : Expr) (m m' : Inference Ty) : Prop :=
  ∀ log t, m = ⟨log, .ok t⟩ ↔ m' = ⟨log, .ok t⟩ ∧ Passes d e.exprAt? log.typeAt?

section
variable {d full : Detector} {places : Path → Option Expr} {log : TypeLog} {m m' : Inference α}
  {f f' : α → Inference β}

theorem Gated.silent (hm : m.Silent) : Gated d places n n (fun _ => True) m m := by
  constructor
  · intro log a h
    rw [hm.eq_nil h]
    exact .nil
  · intro log a
    simp [PassesBetween.empty]

theorem Gated.bind (hm : Gated d places lo mid (fun _ => True) m m')
    (hf : ∀ a, Gated d places mid hi asked (f a) (f' a)) :
    Gated d places lo hi asked (m >>= f) (m' >>= f') := by
  constructor
  · intro log b h
    obtain ⟨a, first, second, hfirst, hsecond, rfl⟩ := bind_eq_ok.mp h
    exact (hm.within hfirst).append ((hf a).within hsecond)
  · intro log b
    constructor
    · intro h
      obtain ⟨a, first, second, hfirst, hsecond, rfl⟩ := bind_eq_ok.mp h
      obtain ⟨hfirst, hpass, -⟩ := hm.ok_iff.mp hfirst
      obtain ⟨hsecond, hpass', hb⟩ := (hf a).ok_iff.mp hsecond
      exact ⟨bind_eq_ok.mpr ⟨a, first, second, hfirst, hsecond, rfl⟩,
        (passesBetween_append (hm.within hfirst) ((hf a).within hsecond)).mpr ⟨hpass, hpass'⟩, hb⟩
    · rintro ⟨h, hpass, hb⟩
      obtain ⟨a, first, second, hfirst, hsecond, rfl⟩ := bind_eq_ok.mp h
      rw [passesBetween_append (hm.within hfirst) ((hf a).within hsecond)] at hpass
      exact bind_eq_ok.mpr ⟨a, first, second, hm.ok_iff.mpr ⟨hfirst, hpass.1, trivial⟩,
        (hf a).ok_iff.mpr ⟨hsecond, hpass.2, hb⟩, rfl⟩

theorem Gated.child {e : Expr} {m m' : Inference Ty} (he : GatedNode d e m m')
    (hplaces : (fun path => places (n :: path)) = e.exprAt?) :
    Gated d places n (n + 1) (fun _ => True) (m.below n) (m'.below n) := by
  constructor
  · intro log t h
    obtain ⟨inner, -, rfl⟩ := below_eq_ok.mp h
    exact .below inner n
  · intro log t
    constructor
    · intro h
      obtain ⟨inner, hinner, rfl⟩ := below_eq_ok.mp h
      obtain ⟨hinner, hpass⟩ := (he inner t).mp hinner
      refine ⟨below_eq_ok.mpr ⟨inner, hinner, rfl⟩, ?_, trivial⟩
      rwa [passesBetween_below, hplaces]
    · rintro ⟨h, hpass, -⟩
      obtain ⟨inner, hinner, rfl⟩ := below_eq_ok.mp h
      rw [passesBetween_below, hplaces] at hpass
      exact below_eq_ok.mpr ⟨inner, (he inner t).mpr ⟨hinner, hpass⟩, rfl⟩

theorem passes_noted {e : Expr} (hlog : Within 0 e.children.length log) :
    Passes d e.exprAt? (typeAt? (log ++ ownType t)) ↔
      PassesBetween d e.exprAt? 0 e.children.length log ∧ (e.isGate = true → Runs d t) := by
  have root : typeAt? (log ++ ownType t) [] = if t.isAbsent then none else some t := by
    rw [typeAt?_append, hlog.typeAt?_nil, Option.none_or, typeAt?_ownType_nil]
  have inner : ∀ n path, typeAt? (log ++ ownType t) (n :: path) = log.typeAt? (n :: path) := by
    intro n path
    rw [typeAt?_append, typeAt?_ownType_cons, Option.or_none]
  constructor
  · intro h
    refine ⟨fun n _ _ path g hg hgate => ?_, fun hgate => ?_⟩
    · simpa only [inner] using h (n :: path) g hg hgate
    · obtain ⟨k, hk, hd⟩ := h [] e rfl hgate
      rw [root] at hk
      split at hk
      · cases hk
      · cases hk
        exact ⟨k, rfl, hd⟩
  · rintro ⟨hchildren, hroot⟩ path g hg hgate
    cases path with
    | nil =>
      obtain rfl : e = g := Option.some.inj hg
      obtain ⟨k, rfl, hd⟩ := hroot hgate
      exact ⟨k, root, hd⟩
    | cons n path =>
      have hn : n < e.children.length := by
        by_contra hout
        simp [Expr.exprAt?, List.getElem?_eq_none (Nat.le_of_not_lt hout)] at hg
      rw [inner]
      exact hchildren n (Nat.zero_le n) hn path g hg hgate

theorem Gated.node {e : Expr} {m m' : Inference Ty}
    (hm : Gated d e.exprAt? 0 e.children.length asked m m')
    (hasked : ∀ t, asked t ↔ (e.isGate = true → Runs d t)) :
    GatedNode d e m.noted m'.noted := by
  intro log t
  constructor
  · intro h
    obtain ⟨inner, hinner, rfl⟩ := noted_eq_ok.mp h
    obtain ⟨hinner, hpass, ht⟩ := hm.ok_iff.mp hinner
    exact ⟨noted_eq_ok.mpr ⟨inner, hinner, rfl⟩,
      (passes_noted (hm.within hinner)).mpr ⟨hpass, (hasked t).mp ht⟩⟩
  · rintro ⟨h, hpass⟩
    obtain ⟨inner, hinner, rfl⟩ := noted_eq_ok.mp h
    obtain ⟨hpass, ht⟩ := (passes_noted (hm.within hinner)).mp hpass
    exact noted_eq_ok.mpr ⟨inner, hm.ok_iff.mpr ⟨hinner, hpass, (hasked t).mpr ht⟩, rfl⟩

theorem GatedNode.plain {e : Expr} {m m' : Inference Ty} (he : e.isGate = false)
    (hm : Gated d e.exprAt? 0 e.children.length (fun _ => True) m m') :
    GatedNode d e m.noted m'.noted :=
  hm.node fun t => by simp [he]

theorem GatedNode.gate {e : Expr} {m m' : Inference Ty} (he : e.isGate = true)
    (hm : Gated d e.exprAt? 0 e.children.length (Runs d) m m') :
    GatedNode d e m.noted m'.noted :=
  hm.node fun t => by simp [he]

theorem GatedNode.fail {e : Expr} {m : Inference Ty} (hm : ∀ log t, m ≠ ⟨log, .ok t⟩) :
    GatedNode d e m m := fun log t =>
  ⟨fun h => (hm log t h).elim, fun h => (hm log t h.1).elim⟩

/-- The type of a callee is recorded without a run of its own. -/
theorem Gated.callee (hplaces : ∀ path e, places (0 :: path) = some e → e.isGate = false) :
    Gated d places 0 1 (fun _ => True) (note [0] t) (note [0] t) := by
  have note_eq : note [0] t = ⟨(ownType t).below 0, .ok ()⟩ := by
    unfold note ownType
    split <;> rfl
  rw [note_eq]
  constructor
  · rintro _ _ ⟨⟩
    exact .below _ 0
  · intro log u
    refine ⟨fun h => ⟨h, ?_, trivial⟩, fun h => h.1⟩
    obtain ⟨rfl, -⟩ := Inference.mk.inj h
    rw [passesBetween_below]
    intro path e he hgate
    rw [hplaces path e he] at hgate
    cases hgate

theorem requireKind_bind_eq_ok {rest : Inference α} :
    (d.requireKind pos k >>= fun _ => rest) = ⟨log, .ok a⟩ ↔
      d.isSupported k = true ∧ rest = ⟨log, .ok a⟩ := by
  unfold Detector.requireKind require
  cases d.isSupported k with
  | true => exact ⟨fun h => ⟨rfl, h⟩, fun h => h.2⟩
  | false => exact ⟨fun h => (nomatch h), fun h => (nomatch h.1)⟩

/-- This is the gate. Either target may be asked, but only the first can refuse. -/
theorem Gated.requireKind {rest rest' : Inference Ty}
    (hfull : full.RunsEveryKind)
    (hrest : Gated d places lo hi (fun _ => True) rest rest')
    (hkind : ∀ log t, rest' = ⟨log, .ok t⟩ → t = .ofKind k) :
    Gated d places lo hi (Runs d) (d.requireKind pos k >>= fun _ => rest)
      (full.requireKind pos k >>= fun _ => rest') := by
  constructor
  · intro log t h
    exact hrest.within (requireKind_bind_eq_ok.mp h).2
  · intro log t
    rw [requireKind_bind_eq_ok, requireKind_bind_eq_ok, hrest.ok_iff]
    constructor
    · rintro ⟨hd, hrun, hpass, -⟩
      have hk := VectorKind.isValid_of_isSupported hd
      refine ⟨⟨hfull k hk, hrun⟩, hpass, k, ?_, hd⟩
      rw [hkind log t hrun, Ty.ofKind_of_isValid hk]
    · rintro ⟨⟨hd, hrun⟩, hpass, k', ht, hd'⟩
      rw [hkind log t hrun, Ty.ofKind_of_isValid (VectorKind.isValid_of_isSupported hd)] at ht
      cases ht
      exact ⟨hd', hrun, hpass, trivial⟩

-- ---------------------------------------------------------------------------
-- Expressions
-- ---------------------------------------------------------------------------

theorem returns_ofKind (m : Inference Unit) (k : VectorKind) (log : TypeLog) (t : Ty)
    (h : (do m; return Ty.ofKind k) = (⟨log, .ok t⟩ : Inference Ty)) : t = .ofKind k := by
  obtain ⟨_, _, _, -, hpure, -⟩ := bind_eq_ok.mp h
  exact (Except.ok.inj (Inference.mk.inj hpure).2).symm

mutual
theorem infer_gated (hfull : full.RunsEveryKind) (c : Context) :
    (e : Expr) → GatedNode d e (e.infer d c) (e.infer full c)
  | .absent => by
    simp only [Expr.infer]
    exact .fail fun _ _ h => (nomatch h)
  | .int _ _ | .float _ _ | .bool _ _ | .string _ _ => by
    simp only [Expr.infer]
    exact .plain rfl (.silent (.pure _))
  | .ident _ _ => by
    simp only [Expr.infer]
    exact .plain rfl (.silent (.typeOfName c))
  | .binary _ op l r => by
    simp only [Expr.infer]
    exact .plain rfl (.bind (.child (infer_gated hfull c l) rfl) fun _ =>
      .bind (.child (infer_gated hfull c r) rfl) fun _ => .silent (.binaryOp op))
  | .unary _ op e => by
    simp only [Expr.infer]
    exact .plain rfl (.bind (.child (infer_gated hfull c e) rfl) fun _ => .silent (.unaryOp op))
  | .call _ f args => by
    cases f with
    | ident _ name =>
      simp only [Expr.infer]
      refine .plain rfl (.bind (.silent (.callee c)) fun sig => .bind (.callee ?_) fun _ =>
        .bind (.silent (.checkCount sig)) fun _ => ?_)
      · exact isGate_of_leaf rfl rfl
      · exact .bind (inferArgs_gated hfull c args 1 fun _ _ => rfl) fun _ => .silent (.pure _)
    | _ =>
      simp only [Expr.infer]
      exact .fail fun _ _ h => (nomatch h)
  | .group _ e => by
    simp only [Expr.infer]
    exact .plain rfl (.child (infer_gated hfull c e) rfl)
  | .index _ o i => by
    simp only [Expr.infer]
    exact .plain rfl (.bind (.child (infer_gated hfull c o) rfl) fun _ =>
      .bind (.child (infer_gated hfull c i) rfl) fun _ => .silent .element)
  | .field _ _ _ => by
    simp only [Expr.infer]
    exact .fail fun _ _ h => (nomatch h)
  | .vector _ es name => by
    by_cases hname : name = ""
    · subst hname
      cases es with
      | nil =>
        simp only [Expr.infer]
        exact .fail fun _ _ h => (nomatch h)
      | cons e es =>
        simp only [Expr.infer, bne_self_eq_false, Bool.false_eq_true, if_false]
        exact .gate rfl (.bind (.child (infer_gated hfull c e) rfl) fun _ =>
          .bind (.silent .inferredKind) fun k => .requireKind hfull
            (.bind (inferElements_gated hfull c es 1 fun _ _ => rfl) fun _ => .silent (.pure _))
            (returns_ofKind _ k))
    · rw [infer_writtenVector hname, infer_writtenVector hname]
      exact .gate rfl (.bind (.silent .writtenKind) fun k => .requireKind hfull
        (.bind (inferElements_gated hfull c es 0 fun _ _ => rfl) fun _ => .silent (.pure _))
        (returns_ofKind _ k))
  | .lanewise _ op l r => by
    simp only [Expr.infer]
    exact .plain rfl (.bind (.child (infer_gated hfull c l) rfl) fun _ =>
      .bind (.silent .require) fun _ => .bind (.child (infer_gated hfull c r) rfl) fun _ =>
      .bind (.silent .require) fun _ => .silent (.laneOp op))
  | .broadcast _ op s v => by
    simp only [Expr.infer]
    exact .plain rfl (.bind (.child (infer_gated hfull c s) rfl) fun _ =>
      .bind (.child (infer_gated hfull c v) rfl) fun _ =>
      .bind (.silent .require) fun _ => .silent (.laneOp_broadcast op))
  | .reduce _ op e => by
    simp only [Expr.infer]
    exact .plain rfl (.bind (.child (infer_gated hfull c e) rfl) fun _ =>
      .bind (.silent .require) fun _ => .silent (.reduceOp op))
  | .dot _ l r => by
    simp only [Expr.infer]
    exact .plain rfl (.bind (.child (infer_gated hfull c l) rfl) fun _ =>
      .bind (.silent .require) fun _ => .bind (.child (infer_gated hfull c r) rfl) fun _ =>
      .bind (.silent .require) fun _ => .silent .dot)
  | .swizzle _ e _ => by
    simp only [Expr.infer]
    exact .plain rfl (.bind (.child (infer_gated hfull c e) rfl) fun _ =>
      .bind (.silent .require) fun _ => .silent (.pure _))
  | .load _ e name => by
    simp only [Expr.infer]
    exact .gate rfl (.bind (.child (infer_gated hfull c e) rfl) fun _ =>
      .bind (.silent .loadedKind) fun k => .requireKind hfull (.silent (.pure _))
        fun _ _ h => (Except.ok.inj (Inference.mk.inj h).2).symm)
  | .store _ a e => by
    simp only [Expr.infer]
    exact .plain rfl (.bind (.child (infer_gated hfull c a) rfl) fun _ =>
      .bind (.silent .pointee) fun _ => .bind (.child (infer_gated hfull c e) rfl) fun _ =>
      .bind (.silent .require) fun _ => .silent (.pure _))
theorem inferArgs_gated (hfull : full.RunsEveryKind) (c : Context) {places : Path → Option Expr} :
    (es : List Expr) → (n : Nat) → {params : List Ty} →
      (∀ i path, places ((i + n) :: path) = es[i]?.bind (·.exprAt? path)) →
      Gated d places n (es.length + n) (fun _ => True) (Expr.inferArgs d c name n params es)
        (Expr.inferArgs full c name n params es)
  | [], n, _, _ => by
    simp only [Expr.inferArgs, List.length_nil, Nat.zero_add]
    exact .silent (.pure _)
  | e :: es, n, _, hplaces => by
    simp only [Expr.inferArgs, List.length_cons, Nat.succ_add_eq_add_succ]
    exact .bind (.child (infer_gated hfull c e) (places_head hplaces)) fun _ =>
      .bind (.silent .checkArgument) fun _ =>
      inferArgs_gated hfull c es (n + 1) (places_tail hplaces)
theorem inferElements_gated (hfull : full.RunsEveryKind) (c : Context)
    {places : Path → Option Expr} {lane : Ty} :
    (es : List Expr) → (n : Nat) →
      (∀ i path, places ((i + n) :: path) = es[i]?.bind (·.exprAt? path)) →
      Gated d places n (es.length + n) (fun _ => True) (Expr.inferElements d c lane n es)
        (Expr.inferElements full c lane n es)
  | [], n, _ => by
    simp only [Expr.inferElements, List.length_nil, Nat.zero_add]
    exact .silent (.pure _)
  | e :: es, n, hplaces => by
    simp only [Expr.inferElements, List.length_cons, Nat.succ_add_eq_add_succ]
    exact .bind (.child (infer_gated hfull c e) (places_head hplaces)) fun _ =>
      .bind (.silent .require) fun _ =>
      inferElements_gated hfull c es (n + 1) (places_tail hplaces)
end

end

end Lanewise
