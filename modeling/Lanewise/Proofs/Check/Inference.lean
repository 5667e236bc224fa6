import Lanewise.Check.Expr

/-!
# Steps of inferences

When the steps of an inference have a result, and which. A chain of steps is opened by
`result_bind_eq_ok` or, where the recorded types count as well, by `bind_eq_ok`, one existential a
step. The rules for operators and names record nothing themselves (`Silent`).
-/

namespace Lanewise

namespace Inference

variable {m : Inference α}

theorem pure_ok : (pure a : Inference α).result = .ok b ↔ a = b := by simp

@[simp] theorem fail_ok : ¬(fail pos fault : Inference α).result = .ok a := nofun

theorem require_ok : (require b pos fault).result = .ok u ↔ b = true := by
  cases b <;> simp [require]

@[simp] theorem result_below : (m.below n).result = m.result := rfl

theorem note_ok : (note path t).result = .ok u := by
  unfold note
  split <;> rfl

theorem noted_ok {m : Inference Ty} : m.noted.result = .ok t ↔ m.result = .ok t := by
  simp only [noted, result_bind_eq_ok, pure_ok]
  constructor
  · rintro ⟨_, h, _, _, rfl⟩
    exact h
  · intro h
    exact ⟨t, h, (), note_ok, rfl⟩

end Inference

/-- A literal that names its kind is typed the same way whether it has elements or not. -/
theorem infer_writtenVector (hname : name ≠ "") :
    Expr.infer d c (.vector p es name) = Inference.noted (do
      let kind ← writtenKind p name es.length
      d.requireKind p kind
      Expr.inferElements d c kind.lane 0 es
      return .ofKind kind) := by
  have written : (name != "") = true := bne_iff_ne.mpr hname
  cases es <;> simp only [Expr.infer, written, if_true]

theorem Expr.isAbsent_iff {e : Expr} : e.isAbsent = true ↔ e = .absent := by
  cases e <;> simp [isAbsent]

open Inference

-- ---------------------------------------------------------------------------
-- Inferences that record nothing
-- ---------------------------------------------------------------------------

def Inference.Silent (m : Inference α) : Prop := m.types = []

namespace Inference.Silent

theorem pure (a : α) : Silent (pure a : Inference α) := rfl

theorem fail : Silent (fail pos fault : Inference α) := rfl

theorem require : Silent (require b pos fault) := by
  cases b <;> rfl

theorem bind {m : Inference α} {f : α → Inference β} (hm : Silent m) (hf : ∀ a, Silent (f a)) :
    Silent (m >>= f) := by
  unfold Silent at hm
  cases h : m.result with
  | ok a =>
    rw [Silent, bind_of_ok h, hm, hf a]
    rfl
  | error e => rw [Silent, bind_of_error h, hm]

theorem binaryOp (op : BinaryOp) : Silent (op.typeOf pos left right) := by
  unfold BinaryOp.typeOf
  split
  · exact .bind .require fun _ => .bind .require fun _ => .pure _
  split
  · exact .bind .require fun _ => .bind .require fun _ => .pure _
  split
  · exact .bind .require fun _ => .pure _
  split
  · exact .bind .require fun _ => .pure _
  split
  · exact .bind .require fun _ => .pure _
  · exact .fail

theorem unaryOp (op : UnaryOp) : Silent (op.typeOf pos operand) := by
  cases op with
  | neg => exact .bind .require fun _ => .pure _
  | not => exact .bind .require fun _ => .pure _
  | ref => exact .pure _
  | other => exact .fail

theorem laneOp_check (op : LaneOp) : Silent (op.check pos k) :=
  .bind .require fun _ => .bind .require fun _ => .require

theorem laneOp (op : LaneOp) : Silent (op.typeOf pos left right) :=
  .bind (laneOp_check op) fun _ => .bind .require fun _ => .bind .require fun _ => .pure _

theorem laneOp_broadcast (op : LaneOp) : Silent (op.typeOfBroadcast pos scalar vector) :=
  .bind .require fun _ => .bind (laneOp_check op) fun _ => .bind .require fun _ => .pure _

theorem reduceOp (op : ReduceOp) : Silent (op.typeOf pos vector) :=
  .bind .require fun _ => .pure _

theorem dot : Silent (typeOfDot pos left right) :=
  .bind .require fun _ => .bind .require fun _ => .pure _

theorem element : Silent (typeOfElement pos indexPos object offset) := by
  refine .bind .require fun _ => ?_
  split
  · exact .pure _
  · exact .fail

theorem pointee : Silent (pointee access pos address) := by
  unfold Lanewise.pointee
  split
  · exact .pure _
  · exact .fail

theorem typeOfName (c : Context) : Silent (c.typeOfName pos x) := by
  unfold Context.typeOfName
  split
  · exact .pure _
  split
  · exact .pure _
  · exact .fail

theorem callee (c : Context) : Silent (c.callee pos f) := by
  unfold Context.callee
  split
  · exact .pure _
  split
  · exact .fail
  · exact .fail

theorem checkCount (sig : Signature) : Silent (sig.checkCount pos name count) := by
  unfold Signature.checkCount
  split
  · exact .require
  · exact .require

theorem checkArgument : Silent (checkArgument name n params pos t) := by
  cases params with
  | nil => exact .pure _
  | cons => exact .require

theorem vectorKind : Silent (vectorKind pos name) := by
  unfold Lanewise.vectorKind
  split
  · exact .pure _
  · exact .fail

theorem writtenKind : Silent (writtenKind pos name count) := by
  unfold Lanewise.writtenKind
  exact .bind vectorKind fun _ => .bind .require fun _ => .pure _

theorem inferredKind : Silent (inferredKind pos elem count) := by
  unfold Lanewise.inferredKind
  split
  · exact .pure _
  · exact .fail

theorem loadedKind : Silent (loadedKind pos name address) := by
  refine .bind pointee fun target => ?_
  split
  · exact vectorKind
  split
  · exact .pure _
  · exact .fail

end Inference.Silent

-- ---------------------------------------------------------------------------
-- What was recorded at a good end
-- ---------------------------------------------------------------------------

namespace Inference

theorem bind_eq_ok {m : Inference α} {f : α → Inference β} :
    m >>= f = ⟨log, .ok b⟩ ↔
      ∃ a first second, m = ⟨first, .ok a⟩ ∧ f a = ⟨second, .ok b⟩ ∧ log = first ++ second := by
  obtain ⟨types, result⟩ := m
  cases result with
  | ok a =>
    rw [bind_of_ok rfl]
    constructor
    · intro h
      obtain ⟨rfl, hb⟩ := Inference.mk.inj h
      exact ⟨a, types, (f a).types, rfl, by rw [← hb], rfl⟩
    · rintro ⟨_, _, second, ⟨⟩, hsecond, rfl⟩
      rw [hsecond]
  | error e =>
    rw [bind_of_error rfl]
    constructor
    · intro h
      cases (Inference.mk.inj h).2
    · rintro ⟨_, _, _, ⟨⟩, _⟩

theorem below_eq_ok {m : Inference α} :
    m.below n = ⟨log, .ok a⟩ ↔ ∃ inner, m = ⟨inner, .ok a⟩ ∧ log = inner.below n := by
  obtain ⟨types, result⟩ := m
  constructor
  · intro h
    obtain ⟨rfl, rfl⟩ := Inference.mk.inj h
    exact ⟨types, rfl, rfl⟩
  · rintro ⟨_, ⟨⟩, rfl⟩
    rfl

theorem Silent.eq_nil {m : Inference α} (hm : m.Silent) (h : m = ⟨log, .ok a⟩) : log = [] := by
  rw [h] at hm
  exact hm

end Inference

def ownType (t : Ty) : TypeLog := if t.isAbsent then [] else [([], t)]

theorem typeAt?_ownType_nil : (ownType t).typeAt? [] = if t.isAbsent then none else some t := by
  unfold ownType
  split <;> rfl

theorem typeAt?_ownType_cons : (ownType t).typeAt? (n :: path) = none := by
  unfold ownType
  split <;> rfl

theorem noted_eq_ok {m : Inference Ty} :
    m.noted = ⟨log, .ok t⟩ ↔ ∃ inner, m = ⟨inner, .ok t⟩ ∧ log = inner ++ ownType t := by
  have note_eq : ∀ u, note [] u = ⟨ownType u, .ok ()⟩ := by
    intro u
    unfold note ownType
    split <;> rfl
  simp only [noted, bind_eq_ok, note_eq]
  constructor
  · rintro ⟨u, inner, _, hinner, ⟨_, _, _, ⟨⟩, ⟨⟩, rfl⟩, rfl⟩
    exact ⟨inner, hinner, by simp⟩
  · rintro ⟨inner, hinner, rfl⟩
    exact ⟨t, inner, _, hinner, ⟨(), _, [], rfl, rfl, (List.append_nil _).symm⟩, rfl⟩

end Lanewise
