import Lanewise.Proofs.Typing.Rules

/-!
# Well-formed types

No part of a well-formed type is missing, an error or a number that names no type, its vectors are
of valid kinds, and its names are names of the user: not empty, and not the name of a scalar or a
vector kind. Annotations denote well-formed types, and from well-formed types in the environment
the rules derive no others (`HasType.wellFormed`).
-/

namespace Lanewise

mutual
def Ty.WellFormed : Ty → Prop
  | .scalar _ => True
  | .array t | .reference t => t.WellFormed
  | .function params ret _ => Ty.AllWellFormed params ∧ ret.WellFormed
  | .vector k => k.isValid = true
  | .custom name =>
    name ≠ "" ∧ Scalar.ofName? name = none ∧ VectorKind.ofName? name = none
  | .absent | .bareFunction | .generic _ | .error | .unknown _ => False
def Ty.AllWellFormed : List Ty → Prop
  | [] => True
  | t :: ts => t.WellFormed ∧ Ty.AllWellFormed ts
end

def Signature.WellFormed (sig : Signature) : Prop :=
  Ty.AllWellFormed sig.params ∧ sig.ret.WellFormed

structure Env.WellFormed (Γ : Env) : Prop where
  vars : ∀ name t, Γ.vars name = some t → t.WellFormed
  fns : ∀ name sig, Γ.fns name = some sig → sig.WellFormed
  returns : ∀ t, Γ.returns = some t → t.WellFormed

-- ---------------------------------------------------------------------------
-- Vector kinds
-- ---------------------------------------------------------------------------

namespace VectorKind

theorem isValid_of_mem_all {k : VectorKind} (h : k ∈ all) : k.isValid = true := by
  revert k
  decide

theorem isValid_of_ofName? (h : ofName? name = some k) : k.isValid = true :=
  isValid_of_mem_all (List.mem_of_find?_eq_some h)

theorem ofName?_empty : ofName? "" = none := by decide +kernel

/-- No target runs vectors of an invalid kind. -/
theorem isValid_of_isSupported {d : Detector} (h : d.isSupported k = true) : k.isValid = true := by
  cases k with
  | invalid => simp [Detector.isSupported, requirements] at h
  | _ => rfl

theorem lane_eq_scalar (h : k.isValid = true) :
    ∃ s, k.lane = .scalar s ∧ (Ty.vector k).lane = .scalar s := by
  cases k with
  | invalid => simp [isValid] at h
  | _ => exact ⟨_, rfl, rfl⟩

end VectorKind

namespace Ty

theorem wellFormed_lane (h : VectorKind.isValid k = true) : k.lane.WellFormed := by
  obtain ⟨s, hs, -⟩ := VectorKind.lane_eq_scalar h
  rw [hs]
  trivial

/-- The two ways to the lane type agree for valid kinds. -/
theorem lane_vector (h : VectorKind.isValid k = true) : (Ty.vector k).lane = k.lane := by
  obtain ⟨s, hs, hs'⟩ := VectorKind.lane_eq_scalar h
  rw [hs, hs']

@[simp] theorem wellFormed_array : (Ty.array t).WellFormed ↔ t.WellFormed := Iff.rfl

theorem WellFormed.not_absent {t : Ty} (h : t.WellFormed) : t.isAbsent = false := by
  cases t with
  | absent => simp [WellFormed] at h
  | _ => rfl

end Ty

-- ---------------------------------------------------------------------------
-- Written types
-- ---------------------------------------------------------------------------

theorem NameRule.Means.wellFormed {names : NameRule} (h : names.Means name t) (hne : name ≠ "") :
    t.WellFormed := by
  cases h with
  | scalar _ => trivial
  | vector _ hk => exact VectorKind.isValid_of_ofName? hk
  | custom hs hk _ => exact ⟨hne, hs, hk⟩

theorem Spells.wellFormed (h : Spells names cs t) : t.WellFormed := by
  induction h with
  | mutReference _ ih => exact ih
  | reference _ _ ih => exact ih
  | array _ ih => exact ih
  | name hne _ _ h => exact h.wellFormed (by simpa using hne)

theorem ParamsDenote.wellFormed (h : ParamsDenote names params types) : Ty.AllWellFormed types := by
  induction h with
  | nil => trivial
  | cons _ ha _ ih => exact ⟨Spells.wellFormed ha, ih⟩

theorem FnHead.HasSignature.wellFormed {head : FnHead} (h : head.HasSignature names sig) :
    sig.WellFormed := by
  refine ⟨h.params.wellFormed, ?_⟩
  cases hret : head.returns with
  | none =>
    rw [h.unit hret]
    trivial
  | some a => exact Spells.wellFormed (h.returns a hret)

-- ---------------------------------------------------------------------------
-- Expressions
-- ---------------------------------------------------------------------------

theorem BinaryOp.Gives.wellFormed {op : BinaryOp} (h : op.Gives left right t)
    (hl : left.WellFormed) : t.WellFormed := by
  cases h with
  | arithmetic => exact hl
  | assignment => exact hl
  | _ => trivial

theorem UnaryOp.Gives.wellFormed (h : UnaryOp.Gives operand op t) (ho : operand.WellFormed) :
    t.WellFormed := by
  cases h with
  | neg => exact ho
  | not => trivial
  | ref => exact ho

theorem Signature.WellFormed.result {sig : Signature} (h : sig.WellFormed) :
    sig.result.WellFormed := by
  unfold Signature.result
  split
  · trivial
  · exact h.2

theorem HasType.wellFormed (hΓ : Γ.WellFormed) : HasType d Γ e t → t.WellFormed
  | .int | .float | .bool | .string => trivial
  | .var h => hΓ.vars _ _ h
  | .fn _ hf => hΓ.fns _ _ hf
  | .binary hl _ h => h.wellFormed (hl.wellFormed hΓ)
  | .unary he h => h.wellFormed (he.wellFormed hΓ)
  | .call hf _ => (hΓ.fns _ _ hf).result
  | .group he => he.wellFormed hΓ
  | .index ho _ _ => Ty.wellFormed_array.mp (ho.wellFormed hΓ)
  | .writtenVector _ _ _ hd _ => VectorKind.isValid_of_isSupported hd
  | .inferredVector _ _ _ _ hd _ => VectorKind.isValid_of_isSupported hd
  | .lanewise hl _ _ _ _ => hl.wellFormed hΓ
  | .broadcast _ hv _ _ _ => hv.wellFormed hΓ
  | .reduce he _ => Ty.wellFormed_lane (he.wellFormed hΓ)
  | .dot hl _ => Ty.wellFormed_lane (hl.wellFormed hΓ)
  | .swizzle he => he.wellFormed hΓ
  | .writtenLoad _ _ _ hd => VectorKind.isValid_of_isSupported hd
  | .inferredLoad _ hd => VectorKind.isValid_of_isSupported hd
  | .store _ _ => trivial

-- ---------------------------------------------------------------------------
-- Environments
-- ---------------------------------------------------------------------------

theorem mem_of_lookup {entries : List (String × α)} (h : entries.lookup name = some a) :
    (name, a) ∈ entries := by
  rw [List.lookup_eq_some_iff] at h
  obtain ⟨before, after, rfl, -⟩ := h
  simp

section
variable {Γ Γ' : Env} {t : Ty} {sig : Signature}

namespace Env.WellFormed

theorem initial : Env.initial.WellFormed := by
  refine ⟨fun _ _ h => (nomatch h), fun name sig h => ?_, fun _ h => (nomatch h)⟩
  have builtin : ∀ entry ∈ Context.builtins, entry.2.WellFormed := by
    simp [Context.builtins, Signature.WellFormed, Ty.AllWellFormed, Ty.WellFormed]
  exact builtin _ (mem_of_lookup h)

theorem bindVariable (hΓ : Γ.WellFormed) (ht : t.WellFormed) : (Γ.bindVariable x t).WellFormed := by
  refine ⟨fun name u h => ?_, hΓ.fns, hΓ.returns⟩
  by_cases same : name = x
  · subst same
    obtain rfl : t = u := by simpa [Env.bindVariable] using h
    exact ht
  · exact hΓ.vars name u (by simpa [Env.bindVariable, same] using h)

theorem bindFunction (hΓ : Γ.WellFormed) (hsig : sig.WellFormed) :
    (Γ.bindFunction f sig).WellFormed := by
  refine ⟨hΓ.vars, fun name other h => ?_, hΓ.returns⟩
  by_cases same : name = f
  · subst same
    obtain rfl : sig = other := by simpa [Env.bindFunction] using h
    exact hsig
  · exact hΓ.fns name other (by simpa [Env.bindFunction, same] using h)

end Env.WellFormed

end

end Lanewise
