import Lanewise.Proofs.Check.Inference
import Lanewise.Proofs.Typing.Annotation
import Mathlib.Data.List.Nodup

/-!
# Operators on types

Each operator ends well exactly where its rule applies, and then with the type that the rule gives.
What the rules ask of vectors is asked of valid kinds, which are the only ones that expressions
have.
-/

namespace Lanewise

open Inference

-- ---------------------------------------------------------------------------
-- Operators
-- ---------------------------------------------------------------------------

theorem BinaryOp.typeOf_ok {op : BinaryOp} :
    (op.typeOf pos left right).result = .ok t ↔ op.Gives left right t := by
  constructor
  · intro h
    unfold BinaryOp.typeOf at h
    split at h
    · rename_i hop
      simp only [result_bind_eq_ok, require_ok, pure_ok, Bool.and_eq_true] at h
      obtain ⟨_, ⟨hl, hr⟩, _, hfit, rfl⟩ := h
      exact .arithmetic hop hl hr hfit
    split at h
    · rename_i hop
      simp only [result_bind_eq_ok, require_ok, pure_ok, Bool.and_eq_true] at h
      obtain ⟨_, ⟨hl, hr⟩, _, hfit, rfl⟩ := h
      exact .ordering hop hl hr hfit
    split at h
    · rename_i hop
      simp only [result_bind_eq_ok, require_ok, pure_ok] at h
      obtain ⟨_, hfit, rfl⟩ := h
      exact .equality hop hfit
    split at h
    · rename_i hop
      simp only [result_bind_eq_ok, require_ok, pure_ok, Bool.and_eq_true] at h
      obtain ⟨_, ⟨hl, hr⟩, rfl⟩ := h
      exact .logical hop hl hr
    split at h
    · rename_i hop
      simp only [result_bind_eq_ok, require_ok, pure_ok] at h
      obtain ⟨_, hfit, rfl⟩ := h
      exact .assignment hop hfit
    · simp at h
  · intro h
    -- The classes of operators exclude each other, so no earlier branch takes the operator.
    cases h with
    | arithmetic hop hl hr hfit =>
      simp [BinaryOp.typeOf, hop, hl, hr, hfit, result_bind_eq_ok, require_ok]
    | ordering hop hl hr hfit =>
      cases op <;> simp_all [BinaryOp.typeOf, isArithmetic, isOrdering, result_bind_eq_ok,
        require_ok]
    | equality hop hfit =>
      cases op <;> simp_all [BinaryOp.typeOf, isArithmetic, isOrdering, isEquality,
        result_bind_eq_ok, require_ok]
    | logical hop hl hr =>
      cases op <;> simp_all [BinaryOp.typeOf, isArithmetic, isOrdering, isEquality, isLogical,
        result_bind_eq_ok, require_ok]
    | assignment hop hfit =>
      cases op <;> simp_all [BinaryOp.typeOf, isArithmetic, isOrdering, isEquality, isLogical,
        isAssignment, result_bind_eq_ok, require_ok]

theorem UnaryOp.typeOf_ok {op : UnaryOp} :
    (op.typeOf pos operand).result = .ok t ↔ UnaryOp.Gives operand op t := by
  constructor
  · intro h
    cases op with
    | neg =>
      simp only [UnaryOp.typeOf, result_bind_eq_ok, require_ok, pure_ok] at h
      obtain ⟨_, hnumber, rfl⟩ := h
      exact .neg hnumber
    | not =>
      simp only [UnaryOp.typeOf, result_bind_eq_ok, require_ok, pure_ok] at h
      obtain ⟨_, hcondition, rfl⟩ := h
      exact .not hcondition
    | ref =>
      simp only [UnaryOp.typeOf, pure_ok] at h
      subst h
      exact .ref
    | other => simp [UnaryOp.typeOf] at h
  · intro h
    cases h with
    | neg hnumber => simp [UnaryOp.typeOf, hnumber, result_bind_eq_ok, require_ok]
    | not hcondition => simp [UnaryOp.typeOf, hcondition, result_bind_eq_ok, require_ok]
    | ref => rfl

theorem LaneOp.check_ok {op : LaneOp} : (op.check pos k).result = .ok u ↔ op.Allows k := by
  simp only [LaneOp.check, result_bind_eq_ok, require_ok, Bool.not_eq_true', Bool.and_eq_false_iff,
    Bool.not_eq_false']
  constructor
  · rintro ⟨_, ha, _, hd, hb⟩
    exact ⟨fun hop => ha.resolve_left (by simp [hop]), fun hop => hd.resolve_left (by simp [hop]),
      fun hop => hb.resolve_left (by simp [hop])⟩
  · intro h
    refine ⟨(), ?_, (), ?_, ?_⟩
    · exact (Bool.eq_false_or_eq_true op.isArithmetic).symm.imp_right h.arithmetic
    · exact (Bool.eq_false_or_eq_true op.isDivision).symm.imp_right h.division
    · exact (Bool.eq_false_or_eq_true op.isBitwise).symm.imp_right h.bitwise

theorem requireVector_ok : (requireVector pos place t).result = .ok u ↔ ∃ k, t = .vector k := by
  rw [requireVector, require_ok]
  cases t <;> simp [Ty.isVector]

theorem LaneOp.typeOf_ok {op : LaneOp} (hk : k.isValid = true) (hk' : k'.isValid = true) :
    (op.typeOf pos (.vector k) (.vector k')).result = .ok t ↔
      op.Allows k ∧ k.width = k'.width ∧ k.lane = k'.lane ∧ t = .vector k := by
  simp only [LaneOp.typeOf, result_bind_eq_ok, require_ok, pure_ok, beq_iff_eq, LaneOp.check_ok,
    Ty.lane_vector hk, Ty.lane_vector hk', Ty.kind, Ty.width]
  constructor
  · rintro ⟨_, hop, _, hwidth, _, hlane, rfl⟩
    exact ⟨hop, hwidth, hlane, rfl⟩
  · rintro ⟨hop, hwidth, hlane, rfl⟩
    exact ⟨(), hop, (), hwidth, (), hlane, rfl⟩

theorem LaneOp.typeOfBroadcast_ok {op : LaneOp} (hk : k.isValid = true) :
    (op.typeOfBroadcast pos scalar (.vector k)).result = .ok t ↔
      scalar.isVector = false ∧ op.Allows k ∧ k.lane.compatible scalar = true ∧ t = .vector k := by
  simp only [LaneOp.typeOfBroadcast, result_bind_eq_ok, require_ok, pure_ok, LaneOp.check_ok,
    Ty.lane_vector hk, Ty.kind, Bool.not_eq_true']
  constructor
  · rintro ⟨_, hscalar, _, hop, _, hfit, rfl⟩
    exact ⟨hscalar, hop, hfit, rfl⟩
  · rintro ⟨hscalar, hop, hfit, rfl⟩
    exact ⟨(), hscalar, (), hop, (), hfit, rfl⟩

theorem ReduceOp.typeOf_ok {op : ReduceOp} (hk : k.isValid = true) :
    (op.typeOf pos (.vector k)).result = .ok t ↔
      (op.isBitwise = true → k.isFloat = false) ∧ t = k.lane := by
  simp only [ReduceOp.typeOf, result_bind_eq_ok, require_ok, pure_ok, Ty.lane_vector hk, Ty.kind,
    Bool.not_eq_true', Bool.and_eq_false_iff]
  constructor
  · rintro ⟨_, hop, rfl⟩
    exact ⟨fun hbitwise => hop.resolve_left (by simp [hbitwise]), rfl⟩
  · rintro ⟨hop, rfl⟩
    exact ⟨(), (Bool.eq_false_or_eq_true op.isBitwise).symm.imp_right hop, rfl⟩

theorem typeOfDot_ok (hk : k.isValid = true) :
    (typeOfDot pos (.vector k) (.vector k')).result = .ok t ↔ k = k' ∧ t = k.lane := by
  simp only [typeOfDot, result_bind_eq_ok, require_ok, pure_ok, beq_iff_eq, Ty.lane_vector hk,
    Ty.kind, Ty.width]
  constructor
  · rintro ⟨_, _, _, hkind, rfl⟩
    exact ⟨hkind, rfl⟩
  · rintro ⟨rfl, rfl⟩
    exact ⟨(), rfl, (), rfl, rfl⟩

theorem typeOfElement_ok :
    (typeOfElement pos indexPos object offset).result = .ok t ↔
      object = .array t ∧ offset.canonical.isInteger = true := by
  simp only [typeOfElement, result_bind_eq_ok, require_ok]
  cases object <;> simp [and_comm]

theorem pointee_ok : (pointee access pos t).result = .ok u ↔ t = .reference u := by
  cases t <;> simp [pointee]

-- ---------------------------------------------------------------------------
-- Vector kinds
-- ---------------------------------------------------------------------------

namespace VectorKind

theorem mem_all_of_isValid (h : isValid k = true) : k ∈ all := by
  cases k with
  | invalid => simp [isValid] at h
  | _ => decide

/-- The lanes tell the kinds apart, once masks are known as such. -/
theorem shapes_nodup : (all.map fun k => (k.isMask, k.width, k.lane?)).Nodup := by
  decide

theorem lane?_of_lane {k : VectorKind} (h : k.isValid = true) : k.lane? = k.lane.scalar? := by
  cases k with
  | invalid => simp [isValid] at h
  | _ => rfl

theorem eq_of_lanes {k k' : VectorKind} (hk : k.isValid = true) (hk' : k'.isValid = true)
    (hmask : k.isMask = k'.isMask) (hwidth : k.width = k'.width) (hlane : k.lane = k'.lane) :
    k = k' := by
  refine List.inj_on_of_nodup_map shapes_nodup (mem_all_of_isValid hk) (mem_all_of_isValid hk') ?_
  rw [hmask, hwidth, lane?_of_lane hk, lane?_of_lane hk', hlane]

theorem forLanes?_eq_some {count : Nat} :
    forLanes? elem count = some k ↔
      k.isValid = true ∧ k.isMask = false ∧ count = k.width ∧ k.lane = elem.canonical := by
  constructor
  · intro h
    have found := List.find?_some h
    simp only [Bool.and_eq_true, Bool.not_eq_true', beq_iff_eq, Int.natCast_inj] at found
    obtain ⟨⟨hmask, hwidth⟩, hlane⟩ := found
    exact ⟨isValid_of_mem_all (List.mem_of_find?_eq_some h), hmask, hwidth.symm, hlane⟩
  · rintro ⟨hk, hmask, rfl, hlane⟩
    cases h : forLanes? elem k.width with
    | none =>
      have missed := List.find?_eq_none.mp h k (mem_all_of_isValid hk)
      simp [hmask, hlane] at missed
    | some k' =>
      have found := List.find?_some h
      simp only [Bool.and_eq_true, Bool.not_eq_true', beq_iff_eq, Int.natCast_inj] at found
      obtain ⟨⟨hmask', hwidth'⟩, hlane'⟩ := found
      have hk' := isValid_of_mem_all (List.mem_of_find?_eq_some h)
      rw [eq_of_lanes hk hk' (hmask.trans hmask'.symm) hwidth'.symm (hlane.trans hlane'.symm)]

end VectorKind

theorem vectorKind_ok :
    (vectorKind pos name).result = .ok k ↔ VectorKind.ofName? name = some k := by
  unfold vectorKind
  cases VectorKind.ofName? name <;> simp

theorem Detector.requireKind_ok {d : Detector} :
    (d.requireKind pos k).result = .ok u ↔ d.isSupported k = true := require_ok

theorem writtenKind_ok :
    (writtenKind pos name count).result = .ok k ↔
      VectorKind.ofName? name = some k ∧ count = k.width := by
  simp only [writtenKind, result_bind_eq_ok, vectorKind_ok, require_ok, pure_ok, beq_iff_eq]
  constructor
  · rintro ⟨_, hk, _, hcount, rfl⟩
    exact ⟨hk, hcount⟩
  · rintro ⟨hk, hcount⟩
    exact ⟨k, hk, (), hcount, rfl⟩

theorem inferredKind_ok {count : Nat} :
    (inferredKind pos elem count).result = .ok k ↔
      k.isValid = true ∧ k.isMask = false ∧ count = k.width ∧ k.lane = elem.canonical := by
  rw [← VectorKind.forLanes?_eq_some, inferredKind]
  cases VectorKind.forLanes? elem count <;> simp

theorem loadedKind_ok :
    (loadedKind pos name address).result = .ok k ↔
      ∃ target, address = .reference target ∧
        (name ≠ "" ∧ VectorKind.ofName? name = some k ∨ name = "" ∧ target = .vector k) := by
  simp only [loadedKind, result_bind_eq_ok, pointee_ok]
  refine exists_congr fun target => and_congr_right fun _ => ?_
  by_cases hname : name = ""
  · cases target <;> simp [hname]
  · simp [hname, vectorKind_ok]

end Lanewise
