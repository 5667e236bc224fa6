import Lanewise.Proofs.Ty.Compatible

/-!
# What compatibility respects

`compatible_rigid`: whether two types are compatible does not change when either is replaced by an
equal type or by the scalar that it stands for, every type that is there is compatible with itself,
and an array, a reference or a function is compatible with itself and the error type alone. So what
holds between scalars never reaches into compound types.

The test calls itself on what the types stand for. `compatibleWithin` counts the calls.
-/

namespace Lanewise

namespace Ty

/-- The types that have other types in them, and the function of which no signature is known. -/
def isCompound : Ty → Bool
  | .array _ | .reference _ | .function .. | .bareFunction => true
  | _ => false

/-- The test of compatibility if it may be entered `n` times; none if that is not enough. -/
def compatibleWithin : Nat → Ty → Ty → Option Bool
  | 0, _, _ => none
  | n + 1, expected, actual =>
    if expected.isAbsent || actual.isAbsent then some false
    else if expected.isError || actual.isError then some true
    else if expected.same actual then some true
    else if expected.isCustom || actual.isCustom then
      if expected.isReconcilable || actual.isReconcilable then
        compatibleWithin n expected.canonical actual.canonical
      else some false
    else some (expected.widens actual)

variable {e a b : Ty}

-- ---------------------------------------------------------------------------
-- The calls of the test
-- ---------------------------------------------------------------------------

theorem compatibleWithin_succ
    (h : compatibleWithin n e.canonical a.canonical = some (e.canonical.compatible a.canonical)) :
    compatibleWithin (n + 1) e a = some (e.compatible a) := by
  rw [compatibleWithin, compatible, h]
  simp only [apply_ite some]

theorem compatibleWithin_of_reconciled (he : e.isReconcilable = false)
    (ha : a.isReconcilable = false) : compatibleWithin (n + 1) e a = some (e.compatible a) := by
  rw [compatibleWithin, compatible]
  simp only [he, ha, Bool.or_self, Bool.false_eq_true, if_false, apply_ite some]

/-- What types stand for stands for nothing else, so the test calls itself once at most. -/
theorem compatibleWithin_two (e a : Ty) : compatibleWithin 2 e a = some (e.compatible a) :=
  compatibleWithin_succ <|
    compatibleWithin_of_reconciled e.isReconcilable_canonical a.isReconcilable_canonical

-- ---------------------------------------------------------------------------
-- Compound types
-- ---------------------------------------------------------------------------

theorem canonical_of_isCompound (h : e.isCompound = true) : e.canonical = e := by
  cases e with
  | custom => cases h
  | _ => rfl

theorem canonical_eq_compound (h : e.isCompound = true) : b.canonical = e ↔ b = e := by
  constructor
  · rintro rfl
    cases b with
    | custom name =>
      simp only [canonical] at h
      split at h <;> cases h
    | _ => rfl
  · rintro rfl
    exact canonical_of_isCompound h

theorem canonical_eq_error : b.canonical = .error ↔ b = .error := by
  rw [← isError_iff, isError_canonical, isError_iff]

theorem not_widens_compound (h : e.isCompound = true) :
    e.widens a = false ∧ a.widens e = false := by
  simp only [← Bool.not_eq_true]
  constructor
  · intro hwidens
    rcases widens_cases hwidens with ⟨s, t, rfl, rfl⟩ | ⟨k, l, rfl, rfl⟩ <;> cases h
  · intro hwidens
    rcases widens_cases hwidens with ⟨s, t, rfl, rfl⟩ | ⟨k, l, rfl, rfl⟩ <;> cases h

/-- On either side, a compound type accepts the error type and itself and nothing else. -/
theorem compatible_compound (h : e.isCompound = true) :
    (e.compatible b = true ↔ b = .error ∨ b = e) ∧
      (b.compatible e = true ↔ b = .error ∨ b = e) := by
  have hself := canonical_of_isCompound h
  have hreconciled : e.isReconcilable = false := hself ▸ e.isReconcilable_canonical
  have habsent : e ≠ .absent := by
    rintro rfl
    cases h
  have herror : e ≠ .error := by
    rintro rfl
    cases h
  have hthere : b = .error ∨ b = e → b.canonical ≠ .absent := by
    rintro (rfl | rfl)
    · nofun
    · rwa [hself]
  rw [← compatible_canonical e b, ← compatible_canonical b e, hself,
    compatible_of_reconciled hreconciled b.isReconcilable_canonical,
    compatible_of_reconciled b.isReconcilable_canonical hreconciled, canonical_eq_error,
    eq_comm (a := e) (b := b.canonical), canonical_eq_compound h, (not_widens_compound h).1,
    (not_widens_compound h).2]
  simp only [habsent, herror, ne_eq, not_false_eq_true, true_and, false_or, Bool.false_eq_true,
    or_false]
  exact ⟨and_iff_right_of_imp hthere, and_iff_right_of_imp hthere⟩

end Ty

/-- Compatibility respects equality of types and what they stand for, and one call of the test on
what they stand for is always enough. Whatever type is there is compatible with itself. An array, a
reference or a function is compatible with the error type and with itself, on either side, and with
nothing else. -/
theorem compatible_rigid (a b : Ty) :
    (∀ a' b' : Ty, a.same a' = true → b.same b' = true → a.compatible b = a'.compatible b') ∧
    a.compatible b = a.canonical.compatible b.canonical ∧
    Ty.compatibleWithin 2 a b = some (a.compatible b) ∧
    (a ≠ .absent → a.compatible a = true) ∧
    (a.isCompound = true → (a.compatible b = true ↔ b = .error ∨ a.same b = true) ∧
      (b.compatible a = true ↔ b = .error ∨ a.same b = true)) := by
  refine ⟨fun a' b' ha hb => ?_, (Ty.compatible_canonical a b).symm, Ty.compatibleWithin_two a b,
    fun h => ?_, fun h => ?_⟩
  · rw [Ty.same_iff.mp ha, Ty.same_iff.mp hb]
  · exact Ty.compatible_self (by simpa [← Bool.not_eq_true, Ty.isAbsent_iff] using h)
  · rw [Ty.same_iff, eq_comm (a := a) (b := b)]
    exact Ty.compatible_compound h

/-- Scalars widen and names stand for scalars, but not inside an array or behind a reference. -/
theorem compatible_rigid_widening :
    Ty.i64.compatible .i32 = true ∧ (Ty.array .i64).compatible (.array .i32) = false ∧
      (Ty.custom "i32").compatible .i32 = true ∧
      (Ty.reference (.custom "i32")).compatible (.reference .i32) = false := by
  have harray := ((compatible_rigid (.array .i64) (.array .i32)).2.2.2.2 rfl).1
  have hreference :=
    ((compatible_rigid (.reference (.custom "i32")) (.reference .i32)).2.2.2.2 rfl).1
  refine ⟨?_, ?_, ?_, ?_⟩
  · rw [Ty.compatible_of_reconciled rfl rfl]
    decide
  · rw [← Bool.not_eq_true, harray]
    decide
  · rw [(compatible_rigid (.custom "i32") .i32).2.1]
    exact (compatible_rigid .i32 .i32).2.2.2.1 (by decide)
  · rw [← Bool.not_eq_true, hreference]
    decide

end Lanewise
