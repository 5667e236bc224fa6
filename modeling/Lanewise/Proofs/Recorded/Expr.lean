import Lanewise.Proofs.Check.Places
import Lanewise.Proofs.Typing.Expr
import Lanewise.Proofs.WellFormed.Expr

/-!
# Recorded types of expressions

An expression that has a type leaves one behind for each expression in it. What is recorded at a
node and at its operands are conclusion and premises of the rule for its form, in the context that
the whole expression was typed in (`infer_recorded`).
-/

namespace Lanewise

-- ---------------------------------------------------------------------------
-- Rules over types
-- ---------------------------------------------------------------------------

/-- From the types of its operands an expression gets its own. A name has no operands and gets its
type from the context; one that is called stands for a function. -/
inductive Expr.Rule (d : Detector) (c : Context) : Expr → List Ty → Ty → Prop
  | int : Rule d c (.int p n) [] .i64
  | float : Rule d c (.float p x) [] .f64
  | bool : Rule d c (.bool p b) [] .bool
  | string : Rule d c (.string p s) [] .string
  | var (h : c.variableNamed? x = some s) : Rule d c (.ident p x) [] s.ty
  | fn (h : c.functionNamed? x = some t) : Rule d c (.ident p x) [] t
  | binary (h : op.Gives left right t) : Rule d c (.binary p op l r) [left, right] t
  | unary (h : UnaryOp.Gives operand op t) : Rule d c (.unary p op e) [operand] t
  /-- Each parameter accepts its argument. Further ones are for variadic functions only. -/
  | call (hf : c.functionNamed? f = some (.function params ret variadic))
      (hcount : AcceptsCount variadic params operands.length)
      (hfit : ∀ pair ∈ params.zip operands, pair.1.compatible pair.2 = true) :
      Rule d c (.call p (.ident q f) args) (.function params ret variadic :: operands)
        (Signature.result ⟨params, ret, variadic⟩)
  | group : Rule d c (.group p e) [t] t
  | index (h : offset.canonical.isInteger = true) : Rule d c (.index p o i) [.array t, offset] t
  | writtenVector (hne : name ≠ "") (hk : VectorKind.ofName? name = some k)
      (hcount : operands.length = k.width) (hd : d.isSupported k = true)
      (hfit : ∀ t ∈ operands, k.lane.compatible t = true) :
      Rule d c (.vector p es name) operands (.vector k)
  | inferredVector (hmask : k.isMask = false) (hcount : operands.length + 1 = k.width)
      (hlane : k.lane = t.canonical) (hd : d.isSupported k = true)
      (hfit : ∀ t ∈ operands, k.lane.compatible t = true) :
      Rule d c (.vector p es "") (t :: operands) (.vector k)
  | lanewise (hop : LaneOp.Allows op k) (hwidth : k.width = k'.width) (hlane : k.lane = k'.lane) :
      Rule d c (.lanewise p op l r) [.vector k, .vector k'] (.vector k)
  | broadcast (hscalar : t.isVector = false) (hop : LaneOp.Allows op k)
      (hfit : k.lane.compatible t = true) :
      Rule d c (.broadcast p op s v) [t, .vector k] (.vector k)
  | reduce (hop : op.isBitwise = true → k.isFloat = false) :
      Rule d c (.reduce p op e) [.vector k] k.lane
  | dot : Rule d c (.dot p l r) [.vector k, .vector k] k.lane
  | swizzle : Rule d c (.swizzle p e pattern) [.vector k] (.vector k)
  | writtenLoad (hne : name ≠ "") (hk : VectorKind.ofName? name = some k)
      (hd : d.isSupported k = true) : Rule d c (.load p e name) [.reference t] (.vector k)
  | inferredLoad (hd : d.isSupported k = true) :
      Rule d c (.load p e "") [.reference (.vector k)] (.vector k)
  | store : Rule d c (.store p a e) [.reference t, .vector k] .unit

def Expr.isIdent : Expr → Bool
  | .ident .. => true
  | _ => false

/-- What the rule gives for the types of operands does not depend on the context. -/
theorem Expr.Rule.unique (he : e.isIdent = false) (h : Rule d c e operands t)
    (h' : Rule d c' e operands t') : t = t' := by
  cases h with
  | var | fn => cases he
  | binary hop =>
    cases h' with
    | binary hop' => exact hop.unique hop'
  | unary hop =>
    cases h' with
    | unary hop' => exact hop.unique hop'
  | writtenVector hne hk _ _ _ =>
    cases h' with
    | writtenVector _ hk' _ _ _ => rw [Option.some.inj (hk.symm.trans hk')]
    | inferredVector => exact (hne rfl).elim
  | inferredVector hmask hcount hlane hd _ =>
    cases h' with
    | writtenVector hne _ _ _ _ => exact (hne rfl).elim
    | inferredVector hmask' hcount' hlane' hd' _ =>
      rw [VectorKind.eq_of_lanes (VectorKind.isValid_of_isSupported hd)
        (VectorKind.isValid_of_isSupported hd') (hmask.trans hmask'.symm)
        (hcount.symm.trans hcount') (hlane.trans hlane'.symm)]
  | writtenLoad hne hk _ =>
    cases h' with
    | writtenLoad _ hk' _ => rw [Option.some.inj (hk.symm.trans hk')]
    | inferredLoad => exact (hne rfl).elim
  | inferredLoad _ =>
    cases h' with
    | writtenLoad hne _ _ => exact (hne rfl).elim
    | inferredLoad _ => rfl
  | _ =>
    cases h'
    rfl

open Inference TypeLog

-- ---------------------------------------------------------------------------
-- What is recorded below
-- ---------------------------------------------------------------------------

/-- At every expression, `Q` holds of it and of what is recorded from there on. -/
def Everywhere (Q : Expr → (Path → Option Ty) → Prop) (places : Path → Option Expr)
    (types : Path → Option Ty) : Prop :=
  ∀ path e, places path = some e → e ≠ .absent → Q e fun rest => types (path ++ rest)

/-- An expression has a recorded type, which is the one that its rule gives in the context for those
recorded at its operands. -/
def Obeys (d : Detector) (c : Context) (e : Expr) (types : Path → Option Ty) : Prop :=
  ∃ t operands, types [] = some t ∧ t ≠ .absent ∧ operands.length = e.children.length ∧
    (∀ i, i < operands.length → types [i] = operands[i]?) ∧ e.Rule d c operands t

/-- The log holds what is to be recorded below the children from number `lo` up to `hi`, and nothing
else. -/
structure Covers (Q : Expr → (Path → Option Ty) → Prop) (places : Path → Option Expr) (lo hi : Nat)
    (log : TypeLog) : Prop where
  within : Within lo hi log
  children : ∀ n, lo ≤ n → n < hi →
    Everywhere Q (fun path => places (n :: path)) fun path => log.typeAt? (n :: path)

namespace Covers

variable {Q : Expr → (Path → Option Ty) → Prop} {places : Path → Option Expr}
  {log first second : TypeLog}

theorem nil : Covers Q places n n [] := ⟨.nil, fun _ _ _ => by omega⟩

theorem append (hfirst : Covers Q places lo mid first) (hsecond : Covers Q places mid hi second) :
    Covers Q places lo hi (first ++ second) := by
  refine ⟨hfirst.within.append hsecond.within, fun n hn hn' => ?_⟩
  by_cases hmid : n < mid
  · simpa only [hsecond.within.typeAt?_append_left hmid] using hfirst.children n hn hmid
  · have hmid := Nat.le_of_not_lt hmid
    simpa only [hfirst.within.typeAt?_append_right hmid] using hsecond.children n hmid hn'

theorem everywhere (h : Covers Q places 0 hi log) (hroot : places [] = none)
    (hrest : ∀ n path, hi ≤ n → places (n :: path) = none) : Everywhere Q places log.typeAt? := by
  intro path e he
  cases path with
  | nil =>
    rw [hroot] at he
    cases he
  | cons n path =>
    by_cases hn : n < hi
    · exact h.children n (Nat.zero_le n) hn path e he
    · rw [hrest n path (Nat.le_of_not_lt hn)] at he
      cases he

theorem below (h : Everywhere Q (fun path => places (n :: path)) log.typeAt?) :
    Covers Q places n (n + 1) (log.below n) := by
  refine ⟨.below log n, fun i hi hi' => ?_⟩
  obtain rfl : i = n := by omega
  simpa using h

end Covers

section
variable {d : Detector} {c : Context} {places : Path → Option Expr} {log first second : TypeLog}

structure Operands (lo hi : Nat) (log : TypeLog) (operands : List Ty) : Prop where
  count : lo + operands.length = hi
  types : ∀ i, i < operands.length → log.typeAt? [lo + i] = operands[i]?

namespace Operands

theorem nil : Operands n n log [] := ⟨rfl, fun _ h => (nomatch h)⟩

theorem single (h : log.typeAt? [] = some t) : Operands n (n + 1) (log.below n) [t] := by
  refine ⟨rfl, fun i hi => ?_⟩
  obtain rfl : i = 0 := by simpa using hi
  simpa using h

theorem append (hwithin : Within lo mid first) (hwithin' : Within mid hi second)
    (hfirst : Operands lo mid first left) (hsecond : Operands mid hi second right) :
    Operands lo hi (first ++ second) (left ++ right) := by
  have hmid := hfirst.count
  refine ⟨by rw [List.length_append, ← hsecond.count, ← hmid, Nat.add_assoc], fun i hi => ?_⟩
  by_cases hi' : i < left.length
  · rw [hwithin'.typeAt?_append_left (by omega), hfirst.types i hi', List.getElem?_append_left hi']
  · rw [List.length_append] at hi
    rw [hwithin.typeAt?_append_right (by omega),
      List.getElem?_append_right (Nat.le_of_not_lt hi'), ← hsecond.types _ (by omega)]
    congr 2
    omega

end Operands

-- ---------------------------------------------------------------------------
-- Inferences that record
-- ---------------------------------------------------------------------------

/-- If the inference ends well, it has recorded what there is below the children from number `lo` up
to `hi`, and `post` holds of the types of these children and of the result. -/
def Inference.Records (d : Detector) (c : Context) (places : Path → Option Expr) (lo hi : Nat)
    (post : List Ty → α → Prop) (m : Inference α) : Prop :=
  ∀ log a, m = ⟨log, .ok a⟩ → Covers (Obeys d c) places lo hi log ∧
    ∃ operands, Operands lo hi log operands ∧ post operands a

def RecordsNode (d : Detector) (c : Context) (e : Expr) (m : Inference Ty) : Prop :=
  ∀ log t, m = ⟨log, .ok t⟩ → t.WellFormed →
    Everywhere (Obeys d c) e.exprAt? log.typeAt? ∧ log.typeAt? [] = some t

namespace Inference.Records

variable {m : Inference α} {f : α → Inference β} {post : List Ty → α → Prop}
  {post' : List Ty → β → Prop}

theorem silent (hm : m.Silent) (h : ∀ a, m.result = .ok a → post [] a) :
    m.Records d c places n n post := by
  intro log a hrun
  rw [hm.eq_nil hrun]
  exact ⟨.nil, [], .nil, h a (by rw [hrun])⟩

theorem pure (h : post [] a) : (pure a : Inference α).Records d c places n n post :=
  .silent (.pure a) fun _ ha => pure_ok.mp ha ▸ h

theorem mono (hm : m.Records d c places lo hi post)
    (h : ∀ operands a, post operands a → weaker operands a) :
    m.Records d c places lo hi weaker := by
  intro log a hrun
  obtain ⟨hcovers, operands, hoperands, ha⟩ := hm log a hrun
  exact ⟨hcovers, operands, hoperands, h operands a ha⟩

theorem bind (hm : m.Records d c places lo mid post)
    (hf : ∀ operands a, post operands a →
      (f a).Records d c places mid hi fun rest b => post' (operands ++ rest) b) :
    (m >>= f).Records d c places lo hi post' := by
  intro log b h
  obtain ⟨a, first, second, hfirst, hsecond, rfl⟩ := bind_eq_ok.mp h
  obtain ⟨hcovers, left, hleft, ha⟩ := hm first a hfirst
  obtain ⟨hcovers', right, hright, hb⟩ := hf left a ha second b hsecond
  exact ⟨hcovers.append hcovers', left ++ right,
    hleft.append hcovers.within hcovers'.within hright, hb⟩

theorem bindSilent (hm : m.Silent)
    (hf : ∀ a, m.result = .ok a → (f a).Records d c places lo hi post') :
    (m >>= f).Records d c places lo hi post' := by
  have hsilent : m.Records d c places lo lo fun operands a => operands = [] ∧ m.result = .ok a :=
    silent hm fun a ha => ⟨rfl, ha⟩
  refine bind hsilent ?_
  rintro _ a ⟨rfl, ha⟩
  exact hf a ha

theorem below {e : Expr} {m : Inference Ty} (hm : RecordsNode d c e m)
    (hwf : m.Yields Ty.WellFormed) (hplaces : (fun path => places (n :: path)) = e.exprAt?) :
    (m.below n).Records d c places n (n + 1) fun operands t => operands = [t] ∧ t.WellFormed := by
  intro log t h
  obtain ⟨inner, hinner, rfl⟩ := below_eq_ok.mp h
  have ht := hwf.result t (by rw [hinner])
  obtain ⟨hrecorded, hroot⟩ := hm inner t hinner ht
  exact ⟨.below (hplaces ▸ hrecorded), [t], .single hroot, rfl, ht⟩

theorem bindChild {e : Expr} {f : Ty → Inference β} (hc : c.WellFormed)
    (he : RecordsNode d c e (e.infer d c)) (hplaces : (fun path => places (n :: path)) = e.exprAt?)
    (hf : ∀ t, t.WellFormed →
      (f t).Records d c places (n + 1) hi fun rest b => post' (t :: rest) b) :
    ((e.infer d c).below n >>= f).Records d c places n hi post' := by
  refine bind (below he (infer_yields hc e) hplaces) ?_
  rintro _ t ⟨rfl, ht⟩
  exact hf t ht

end Inference.Records

theorem RecordsNode.node {e : Expr} {m : Inference Ty}
    (hm : m.Records d c e.exprAt? 0 e.children.length fun operands t => e.Rule d c operands t) :
    RecordsNode d c e m.noted := by
  intro log t h ht
  obtain ⟨inner, hinner, rfl⟩ := noted_eq_ok.mp h
  obtain ⟨hcovers, operands, hoperands, hrule⟩ := hm inner t hinner
  have root : typeAt? (inner ++ ownType t) [] = some t := by
    rw [typeAt?_append, hcovers.within.typeAt?_nil, Option.none_or, typeAt?_ownType_nil,
      ht.not_absent]
    rfl
  have child : ∀ n path, typeAt? (inner ++ ownType t) (n :: path) = inner.typeAt? (n :: path) := by
    intro n path
    rw [typeAt?_append, typeAt?_ownType_cons, Option.or_none]
  refine ⟨fun path g hg habsent => ?_, root⟩
  cases path with
  | nil =>
    obtain rfl : e = g := Option.some.inj hg
    refine ⟨t, operands, root, ?_, by simpa using hoperands.count, fun i hi => ?_, hrule⟩
    · rintro rfl
      exact ht
    · simpa [child] using hoperands.types i hi
  | cons n path =>
    have hn : n < e.children.length := by
      by_contra hout
      simp [Expr.exprAt?, List.getElem?_eq_none (Nat.le_of_not_lt hout)] at hg
    have hchild := hcovers.children n (Nat.zero_le n) hn path g hg habsent
    simpa only [child, List.cons_append] using hchild

theorem Inference.Records.callee (ht : t.WellFormed) (hf : c.functionNamed? name = some t)
    (hplaces : (fun path => places (0 :: path)) = (Expr.ident pos name).exprAt?) :
    (note [0] t).Records d c places 0 1 fun operands _ => operands = [t] := by
  have hnote : note [0] t = ⟨(ownType t).below 0, .ok ()⟩ := by
    simp only [note, ownType, ht.not_absent, Bool.false_eq_true, if_false]
    rfl
  have hnode : RecordsNode d c (.ident pos name) (noted (Pure.pure t)) :=
    .node (.pure (.fn hf))
  obtain ⟨hrecorded, hroot⟩ := hnode (ownType t) t (noted_eq_ok.mpr ⟨[], rfl, rfl⟩) ht
  intro log _ h
  rw [hnote] at h
  obtain ⟨rfl, -⟩ := Inference.mk.inj h
  exact ⟨.below (hplaces ▸ hrecorded), [t], .single hroot, rfl⟩

theorem RecordsNode.fail {e : Expr} {m : Inference Ty} (hm : ∀ log t, m ≠ ⟨log, .ok t⟩) :
    RecordsNode d c e m := fun log t h => (hm log t h).elim

-- ---------------------------------------------------------------------------
-- Expressions
-- ---------------------------------------------------------------------------

mutual
theorem infer_recorded (hc : c.WellFormed) :
    (e : Expr) → RecordsNode d c e (e.infer d c)
  | .absent => by
    simp only [Expr.infer]
    exact .fail fun _ _ h => (nomatch h)
  | .int _ _ => by
    simp only [Expr.infer]
    exact .node (.pure .int)
  | .float _ _ => by
    simp only [Expr.infer]
    exact .node (.pure .float)
  | .bool _ _ => by
    simp only [Expr.infer]
    exact .node (.pure .bool)
  | .string _ _ => by
    simp only [Expr.infer]
    exact .node (.pure .string)
  | .ident _ _ => by
    simp only [Expr.infer]
    refine .node (.silent (.typeOfName c) fun t ht => ?_)
    obtain ⟨s, hs, rfl⟩ | hf := Context.named_of_typeOfName ht
    · exact .var hs
    · exact .fn hf
  | .binary _ op l r => by
    simp only [Expr.infer]
    exact .node (.bindChild hc (infer_recorded hc l) rfl fun left _ =>
      .bindChild hc (infer_recorded hc r) rfl fun right _ =>
      .silent (.binaryOp op) fun t ht => .binary (BinaryOp.typeOf_ok.mp ht))
  | .unary _ op e => by
    simp only [Expr.infer]
    exact .node (.bindChild hc (infer_recorded hc e) rfl fun operand _ =>
      .silent (.unaryOp op) fun t ht => .unary (UnaryOp.typeOf_ok.mp ht))
  | .call _ f args => by
    cases f with
    | ident _ name =>
      simp only [Expr.infer]
      refine .node (.bindSilent (.callee c) fun sig hsig =>
        .bind (.callee (hc.callee hsig) (Context.functionNamed?_of_callee hsig) rfl) ?_)
      rintro _ _ rfl
      refine .bindSilent (.checkCount sig) fun _ hcount =>
        .bind (inferArgs_recorded hc args 1 fun _ _ => rfl) ?_
      rintro operands _ ⟨hlength, hfit⟩
      refine .pure ?_
      rw [List.append_nil]
      exact .call (Context.functionNamed?_of_callee hsig) (hlength ▸ checkCount_ok.mp hcount) hfit
    | _ =>
      simp only [Expr.infer]
      exact .fail fun _ _ h => (nomatch h)
  | .group _ e => by
    simp only [Expr.infer]
    refine .node (.mono (.below (infer_recorded hc e) (infer_yields hc e) rfl) ?_)
    rintro _ t ⟨rfl, -⟩
    exact .group
  | .index _ o i => by
    simp only [Expr.infer]
    refine .node (.bindChild hc (infer_recorded hc o) rfl fun object _ =>
      .bindChild hc (infer_recorded hc i) rfl fun offset _ => .silent .element fun t ht => ?_)
    obtain ⟨rfl, hoffset⟩ := typeOfElement_ok.mp ht
    exact .index hoffset
  | .field _ _ _ => by
    simp only [Expr.infer]
    exact .fail fun _ _ h => (nomatch h)
  | .vector _ es name => by
    by_cases hname : name = ""
    · subst hname
      cases es with
      | nil =>
        simp only [Expr.infer]
        exact .fail fun _ _ h => (nomatch h)
      | cons e es =>
        simp only [Expr.infer, bne_self_eq_false, Bool.false_eq_true, if_false]
        refine .node (.bindChild hc (infer_recorded hc e) rfl fun elem _ =>
          .bindSilent .inferredKind fun k hk => .bindSilent .require fun _ hd =>
          .bind (inferElements_recorded hc es 1 fun _ _ => rfl) ?_)
        rintro operands _ ⟨hlength, hfit⟩
        refine .pure ?_
        obtain ⟨hvalid, hmask, hcount, hlane⟩ := inferredKind_ok.mp hk
        rw [Ty.ofKind_of_isValid hvalid, List.append_nil]
        exact .inferredVector hmask (hlength ▸ hcount) hlane (Detector.requireKind_ok.mp hd) hfit
    · rw [infer_writtenVector hname]
      refine .node (.bindSilent .writtenKind fun k hk => .bindSilent .require fun _ hd =>
        .bind (inferElements_recorded hc es 0 fun _ _ => rfl) ?_)
      rintro operands _ ⟨hlength, hfit⟩
      refine .pure ?_
      obtain ⟨hk, hcount⟩ := writtenKind_ok.mp hk
      rw [Ty.ofKind_of_isValid (VectorKind.isValid_of_ofName? hk), List.append_nil]
      exact .writtenVector hname hk (hlength ▸ hcount) (Detector.requireKind_ok.mp hd) hfit
  | .lanewise _ op l r => by
    simp only [Expr.infer]
    refine .node (.bindChild hc (infer_recorded hc l) rfl fun left hl =>
      .bindSilent .require fun _ hk => .bindChild hc (infer_recorded hc r) rfl fun right hr =>
      .bindSilent .require fun _ hk' => .silent (.laneOp op) fun t ht => ?_)
    obtain ⟨k, rfl⟩ := requireVector_ok.mp hk
    obtain ⟨k', rfl⟩ := requireVector_ok.mp hk'
    obtain ⟨hop, hwidth, hlane, rfl⟩ := (LaneOp.typeOf_ok hl hr).mp ht
    exact .lanewise hop hwidth hlane
  | .broadcast _ op s v => by
    simp only [Expr.infer]
    refine .node (.bindChild hc (infer_recorded hc s) rfl fun scalar _ =>
      .bindChild hc (infer_recorded hc v) rfl fun vector hv =>
      .bindSilent .require fun _ hk => .silent (.laneOp_broadcast op) fun t ht => ?_)
    obtain ⟨k, rfl⟩ := requireVector_ok.mp hk
    obtain ⟨hscalar, hop, hfit, rfl⟩ := (LaneOp.typeOfBroadcast_ok hv).mp ht
    exact .broadcast hscalar hop hfit
  | .reduce _ op e => by
    simp only [Expr.infer]
    refine .node (.bindChild hc (infer_recorded hc e) rfl fun vector hv =>
      .bindSilent .require fun _ hk => .silent (.reduceOp op) fun t ht => ?_)
    obtain ⟨k, rfl⟩ := requireVector_ok.mp hk
    obtain ⟨hop, rfl⟩ := (ReduceOp.typeOf_ok hv).mp ht
    exact .reduce hop
  | .dot _ l r => by
    simp only [Expr.infer]
    refine .node (.bindChild hc (infer_recorded hc l) rfl fun left hl =>
      .bindSilent .require fun _ hk => .bindChild hc (infer_recorded hc r) rfl fun right hr =>
      .bindSilent .require fun _ hk' => .silent .dot fun t ht => ?_)
    obtain ⟨k, rfl⟩ := requireVector_ok.mp hk
    obtain ⟨k', rfl⟩ := requireVector_ok.mp hk'
    obtain ⟨rfl, rfl⟩ := (typeOfDot_ok hl).mp ht
    exact .dot
  | .swizzle _ e _ => by
    simp only [Expr.infer]
    refine .node (.bindChild hc (infer_recorded hc e) rfl fun vector _ =>
      .bindSilent .require fun _ hk => .pure ?_)
    obtain ⟨k, rfl⟩ := requireVector_ok.mp hk
    exact .swizzle
  | .load _ e name => by
    simp only [Expr.infer]
    refine .node (.bindChild hc (infer_recorded hc e) rfl fun address _ =>
      .bindSilent .loadedKind fun k hk => .bindSilent .require fun _ hd =>
      .pure ?_)
    have hd := Detector.requireKind_ok.mp hd
    rw [Ty.ofKind_of_isValid (VectorKind.isValid_of_isSupported hd)]
    obtain ⟨target, rfl, ⟨hname, hk⟩ | ⟨rfl, rfl⟩⟩ := loadedKind_ok.mp hk
    · exact .writtenLoad hname hk hd
    · exact .inferredLoad hd
  | .store _ a e => by
    simp only [Expr.infer]
    refine .node (.bindChild hc (infer_recorded hc a) rfl fun address _ =>
      .bindSilent .pointee fun target htarget =>
      .bindChild hc (infer_recorded hc e) rfl fun value _ =>
      .bindSilent .require fun _ hk => .pure ?_)
    obtain rfl := pointee_ok.mp htarget
    obtain ⟨k, rfl⟩ := requireVector_ok.mp hk
    exact .store
theorem inferArgs_recorded (hc : c.WellFormed) {places : Path → Option Expr} :
    (es : List Expr) → (n : Nat) → {params : List Ty} →
      (∀ i path, places ((i + n) :: path) = es[i]?.bind (·.exprAt? path)) →
      (Expr.inferArgs d c name n params es).Records d c places n (es.length + n) fun operands _ =>
        es.length = operands.length ∧
          ∀ pair ∈ params.zip operands, pair.1.compatible pair.2 = true
  | [], n, _, _ => by
    simp only [Expr.inferArgs, List.length_nil, Nat.zero_add]
    exact .pure ⟨rfl, by simp⟩
  | e :: es, n, params, hplaces => by
    simp only [Expr.inferArgs, List.length_cons, Nat.succ_add_eq_add_succ]
    refine .bindChild hc (infer_recorded hc e) (places_head hplaces) fun t _ =>
      .bindSilent .checkArgument fun _ harg =>
      .mono (inferArgs_recorded hc es (n + 1) (places_tail hplaces)) ?_
    rintro operands _ ⟨hlength, hfit⟩
    refine ⟨by rw [hlength, List.length_cons], fun pair hpair => ?_⟩
    cases params with
    | nil => cases hpair
    | cons param params =>
      rcases List.mem_cons.mp hpair with rfl | hrest
      · exact checkArgument_ok.mp harg param rfl
      · exact hfit pair hrest
theorem inferElements_recorded (hc : c.WellFormed) {places : Path → Option Expr} {lane : Ty} :
    (es : List Expr) → (n : Nat) →
      (∀ i path, places ((i + n) :: path) = es[i]?.bind (·.exprAt? path)) →
      (Expr.inferElements d c lane n es).Records d c places n (es.length + n) fun operands _ =>
        es.length = operands.length ∧ ∀ t ∈ operands, lane.compatible t = true
  | [], n, _ => by
    simp only [Expr.inferElements, List.length_nil, Nat.zero_add]
    exact .pure ⟨rfl, by simp⟩
  | e :: es, n, hplaces => by
    simp only [Expr.inferElements, List.length_cons, Nat.succ_add_eq_add_succ]
    refine .bindChild hc (infer_recorded hc e) (places_head hplaces) fun t _ =>
      .bindSilent .require fun _ ht =>
      .mono (inferElements_recorded hc es (n + 1) (places_tail hplaces)) ?_
    rintro operands _ ⟨hlength, hfit⟩
    refine ⟨by rw [hlength, List.length_cons], fun u hu => ?_⟩
    rcases List.mem_cons.mp hu with rfl | hrest
    · exact require_ok.mp ht
    · exact hfit u hrest
end

end

end Lanewise
