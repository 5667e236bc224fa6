import Lanewise.Ty.Compatible

/-!
# Which types are compatible

`compatible_iff`: the test of compatibility decides the relation `Accepts`, which is stated here on
its own, except that it also lets every unsigned integer be given a `u64`. The test looks at types
only once their names are replaced by the scalars they spell (`compatible_canonical`).
-/

namespace Lanewise

-- ---------------------------------------------------------------------------
-- The relation
-- ---------------------------------------------------------------------------

/-- Where the first scalar is expected, a value of the second may stand. Integers widen within
their signedness; the literals are `i64` and `f64`, so these two narrow. -/
inductive Scalar.Converts : Scalar → Scalar → Prop
  | signed (hs : s.isSigned = true) (ht : t.isSigned = true) (hbits : t.bits ≤ s.bits) :
    Converts s t
  | unsigned (hs : s.isUnsigned = true) (ht : t.isUnsigned = true) (hbits : t.bits ≤ s.bits) :
    Converts s t
  | literal (hs : s.isInteger = true) : Converts s .i64
  | float (hs : s.isFloat = true) (ht : t.isFloat = true) : Converts s t

theorem Scalar.isSigned_of_isUnsigned {s : Scalar} (h : s.isUnsigned = true) :
    s.isSigned = false := by
  cases s <;> first | rfl | cases h

theorem Scalar.isInteger_of_isFloat {s : Scalar} (h : s.isFloat = true) : s.isInteger = false := by
  cases s <;> first | rfl | cases h

namespace Ty

def spelled : List Scalar := [.i32, .i64, .bool, .string, .f32, .f64]

/-- What a type stands for: a user's name for the scalar that it spells, all else for itself. -/
inductive StandsFor : Ty → Ty → Prop
  | scalar (hs : s ∈ spelled) : StandsFor (.custom s.text) (.scalar s)
  | self (h : ∀ s ∈ spelled, t ≠ .custom s.text) : StandsFor t t

/-- The conversions between types. Compound types have none, and neither have vectors of a kind that
does not exist: these have no lanes to count. -/
inductive Converts : Ty → Ty → Prop
  | scalar (h : Scalar.Converts s t) : Converts (.scalar s) (.scalar t)
  | vector (hk : VectorKind.isValid k = true) (hl : VectorKind.isValid l = true)
      (hwidth : k.width = l.width) (hfamily : k.family = l.family) :
    Converts (.vector k) (.vector l)

inductive Accepts : Ty → Ty → Prop
  | errorExpected : Accepts .error a
  | errorGiven : Accepts e .error
  | equal : Accepts t t
  | reconciled (he : StandsFor e t) (ha : StandsFor a t) : Accepts e a
  | converts (he : StandsFor e t) (ha : StandsFor a u) (h : Converts t u) : Accepts e a

-- ---------------------------------------------------------------------------
-- Names
-- ---------------------------------------------------------------------------

theorem reconciled?_eq_some {name : String} {s : Scalar} :
    reconciled? name = some s ↔ s ∈ spelled ∧ name = s.text := by
  constructor
  · intro h
    unfold reconciled? at h
    split at h <;> cases h <;> simp [spelled, Scalar.text]
  · rintro ⟨hs, rfl⟩
    simp only [spelled, List.mem_cons, List.not_mem_nil, or_false] at hs
    rcases hs with rfl | rfl | rfl | rfl | rfl | rfl <;> rfl

theorem standsFor_iff {t u : Ty} : StandsFor t u ↔ t.canonical = u := by
  constructor
  · intro h
    cases h with
    | scalar hs => simp [canonical, reconciled?_eq_some.mpr ⟨hs, rfl⟩]
    | self h =>
      refine canonical_of_not_isReconcilable ?_
      cases t with
      | custom name =>
        refine Option.isSome_eq_false_iff.mpr (Option.isNone_iff_eq_none.mpr ?_)
        refine Option.eq_none_iff_forall_ne_some.mpr fun s hs => ?_
        obtain ⟨hmem, rfl⟩ := reconciled?_eq_some.mp hs
        exact h s hmem rfl
      | _ => rfl
  · rintro rfl
    cases t with
    | custom name =>
      cases hname : reconciled? name with
      | some s =>
        obtain ⟨hs, rfl⟩ := reconciled?_eq_some.mp hname
        simpa [canonical, hname] using StandsFor.scalar hs
      | none =>
        have hself : ∀ s ∈ spelled, Ty.custom name ≠ .custom s.text := by
          rintro s hs ⟨⟩
          simp [reconciled?_eq_some.mpr ⟨hs, rfl⟩] at hname
        simpa [canonical, hname] using StandsFor.self hself
    | _ =>
      refine .self fun s _ h => ?_
      cases h

@[simp] theorem isAbsent_canonical (t : Ty) : t.canonical.isAbsent = t.isAbsent := by
  cases t with
  | custom name => simp only [canonical]; split <;> rfl
  | _ => rfl

@[simp] theorem isError_canonical (t : Ty) : t.canonical.isError = t.isError := by
  cases t with
  | custom name => simp only [canonical]; split <;> rfl
  | _ => rfl

theorem isCustom_of_isReconcilable {t : Ty} (h : t.isReconcilable = true) : t.isCustom = true := by
  cases t with
  | custom => rfl
  | _ => cases h

theorem isAbsent_iff {t : Ty} : t.isAbsent = true ↔ t = .absent := by
  cases t <;> simp [isAbsent]

theorem isError_iff {t : Ty} : t.isError = true ↔ t = .error := by
  cases t <;> simp [isError]

-- ---------------------------------------------------------------------------
-- The test
-- ---------------------------------------------------------------------------

theorem widens_cases {e a : Ty} (h : e.widens a = true) :
    (∃ s t, e = .scalar s ∧ a = .scalar t) ∨ ∃ k l, e = .vector k ∧ a = .vector l := by
  cases e with
  | scalar s =>
    cases a with
    | scalar t => exact .inl ⟨s, t, rfl, rfl⟩
    | _ => simp [widens, isSigned, isUnsigned, isFloat, isVector, scalar?] at h
  | vector k =>
    cases a with
    | vector l => exact .inr ⟨k, l, rfl, rfl⟩
    | _ => simp [widens, isSigned, isUnsigned, isFloat, isVector, scalar?] at h
  | _ => simp [widens, isSigned, isUnsigned, isFloat, isVector, scalar?] at h

theorem compatible_self {t : Ty} (h : t.isAbsent = false) : t.compatible t = true := by
  rw [compatible]
  simp [h, same_self]

theorem compatible_canonical (e a : Ty) : e.canonical.compatible a.canonical = e.compatible a := by
  by_cases hchanged : (e.isReconcilable || a.isReconcilable) = true
  · fun_cases compatible e a with
    | case1 habsent => rw [compatible, isAbsent_canonical, isAbsent_canonical, if_pos habsent]
    | case2 habsent herror =>
      rw [compatible, isAbsent_canonical, isAbsent_canonical, if_neg habsent, isError_canonical,
        isError_canonical, if_pos herror]
    | case3 habsent _ hsame =>
      obtain rfl := same_iff.mp hsame
      exact compatible_self (by simpa using habsent)
    | case4 => rfl
    | case5 _ _ _ _ hkept => exact absurd hchanged hkept
    | case6 _ _ _ hcustom =>
      rw [Bool.or_eq_true] at hchanged hcustom
      exact absurd (hchanged.imp isCustom_of_isReconcilable isCustom_of_isReconcilable) hcustom
  · rw [Bool.not_eq_true, Bool.or_eq_false_iff] at hchanged
    rw [canonical_of_not_isReconcilable hchanged.1, canonical_of_not_isReconcilable hchanged.2]

theorem compatible_of_reconciled {e a : Ty} (he : e.isReconcilable = false)
    (ha : a.isReconcilable = false) :
    e.compatible a = true ↔ e ≠ .absent ∧ a ≠ .absent ∧
      (e = .error ∨ a = .error ∨ e = a ∨ e.widens a = true) := by
  have hcustom (h : e.isCustom = true ∨ a.isCustom = true) : ¬ e.widens a = true := by
    intro hwidens
    rcases widens_cases hwidens with ⟨s, t, rfl, rfl⟩ | ⟨k, l, rfl, rfl⟩ <;> simp [isCustom] at h
  rw [compatible]
  simp only [Bool.or_eq_true, isAbsent_iff, isError_iff, same_iff, he, ha, Bool.false_eq_true,
    or_self, if_false]
  split
  case isTrue habsent => rcases habsent with rfl | rfl <;> simp
  case isFalse habsent =>
    rw [not_or] at habsent
    simp only [ne_eq, habsent, not_false_eq_true, true_and]
    split
    case isTrue herror => rcases herror with rfl | rfl <;> simp
    case isFalse herror =>
      rw [not_or] at herror
      simp only [herror, false_or]
      split
      case isTrue hsame => simp [hsame]
      case isFalse hsame =>
        split
        case isTrue h => simp [hsame, hcustom h]
        case isFalse => simp [hsame]

theorem widens_scalar (s t : Scalar) :
    (Ty.scalar s).widens (.scalar t) = true ↔
      s.Converts t ∨ s.isUnsigned = true ∧ t = .u64 := by
  have hvector : (Ty.scalar s).isVector = false := rfl
  simp only [widens, isSigned, isUnsigned, isFloat, scalar?, Option.any_some, bits, Option.map_some,
    Option.getD_some, hvector, Bool.false_and]
  constructor
  · intro h
    split at h
    · rename_i hsigned
      simp only [Bool.and_eq_true, Bool.or_eq_true, beq_iff_eq, Ty.scalar.injEq] at hsigned h
      rcases h with hbits | rfl
      · exact .inl (.signed hsigned.1 hsigned.2 (of_decide_eq_true hbits))
      · exact .inl (.literal (by simp [Scalar.isInteger, hsigned.1]))
    split at h
    · rename_i hunsigned
      simp only [Bool.and_eq_true, Bool.or_eq_true, beq_iff_eq, Ty.scalar.injEq] at hunsigned h
      rcases h with hbits | rfl
      · exact .inl (.unsigned hunsigned.1 hunsigned.2 (of_decide_eq_true hbits))
      · exact .inr ⟨hunsigned.1, rfl⟩
    split at h
    · rename_i hliteral
      simp only [Bool.and_eq_true, beq_iff_eq, Ty.scalar.injEq] at hliteral
      obtain ⟨hs, rfl⟩ := hliteral
      exact .inl (.literal (by simp [Scalar.isInteger, hs]))
    split at h
    · rename_i hfloat
      rw [Bool.and_eq_true] at hfloat
      exact .inl (.float hfloat.1 hfloat.2)
    · simp at h
  · have hsigned : Scalar.i64.isSigned = true := rfl
    have hunsigned : Scalar.i64.isUnsigned = false := rfl
    rintro (h | ⟨hs, rfl⟩)
    · cases h with
      | signed hs ht hbits => simp [hs, ht, hbits]
      | unsigned hs ht hbits => simp [hs, ht, hbits, Scalar.isSigned_of_isUnsigned hs]
      | literal hs =>
        rcases Bool.or_eq_true_iff.mp hs with hs | hs
        · simp [hs, hsigned]
        · simp [hs, hunsigned, Scalar.isSigned_of_isUnsigned hs]
      | float hs ht =>
        have hinteger := Scalar.isInteger_of_isFloat hs
        rw [Scalar.isInteger, Bool.or_eq_false_iff] at hinteger
        simp [hs, ht, hinteger]
    · have hu64 : Scalar.u64.isUnsigned = true := rfl
      simp [hs, hu64, Scalar.isSigned_of_isUnsigned hs]

theorem widens_vector {k l : VectorKind} (hne : k ≠ l) :
    (Ty.vector k).widens (.vector l) = true ↔
      (k.isValid = true ∧ l.isValid = true) ∧ k.width = l.width ∧ k.family = l.family := by
  simp only [widens, isSigned, isUnsigned, isFloat, scalar?, isVector, kind, Option.any_none,
    Bool.false_and, Bool.and_self, if_true, Bool.false_eq_true, if_false, VectorKind.isCompatible,
    beq_eq_false_iff_ne.mpr hne, Bool.false_or, Bool.and_eq_true, beq_iff_eq]

/-- A `u64` given where an unsigned integer of fewer bits is expected. -/
def NarrowsUnsigned (e a : Ty) : Prop := (e = .u8 ∨ e = .u16 ∨ e = .u32) ∧ a = .u64

theorem widens_iff {e a : Ty} (hne : e ≠ a) :
    e.widens a = true ↔ Converts e a ∨ NarrowsUnsigned e a := by
  constructor
  · intro h
    rcases widens_cases h with ⟨s, t, rfl, rfl⟩ | ⟨k, l, rfl, rfl⟩
    · rcases (widens_scalar s t).mp h with h | ⟨hs, rfl⟩
      · exact .inl (.scalar h)
      · refine .inr ⟨?_, rfl⟩
        cases s <;> simp_all [Scalar.isUnsigned]
    · obtain ⟨⟨hk, hl⟩, hwidth, hfamily⟩ := (widens_vector (hne <| congrArg _ ·)).mp h
      exact .inl (.vector hk hl hwidth hfamily)
  · rintro (h | ⟨rfl | rfl | rfl, rfl⟩)
    · cases h with
      | scalar h => exact (widens_scalar _ _).mpr (.inl h)
      | vector hk hl hwidth hfamily =>
        exact (widens_vector (hne <| congrArg _ ·)).mpr ⟨⟨hk, hl⟩, hwidth, hfamily⟩
    all_goals exact (widens_scalar _ .u64).mpr (.inr ⟨rfl, rfl⟩)

theorem accepts_iff {e a : Ty} :
    Accepts e a ↔ e = .error ∨ a = .error ∨ e.canonical = a.canonical ∨
      Converts e.canonical a.canonical := by
  constructor
  · intro h
    cases h with
    | errorExpected => exact .inl rfl
    | errorGiven => exact .inr (.inl rfl)
    | equal => exact .inr (.inr (.inl rfl))
    | reconciled he ha =>
      exact .inr (.inr (.inl ((standsFor_iff.mp he).trans (standsFor_iff.mp ha).symm)))
    | converts he ha h =>
      rw [← standsFor_iff.mp he, ← standsFor_iff.mp ha] at h
      exact .inr (.inr (.inr h))
  · rintro (rfl | rfl | h | h)
    · exact .errorExpected
    · exact .errorGiven
    · exact .reconciled (standsFor_iff.mpr h) (standsFor_iff.mpr rfl)
    · exact .converts (standsFor_iff.mpr rfl) (standsFor_iff.mpr rfl) h

theorem narrowsUnsigned_canonical {e a : Ty} :
    NarrowsUnsigned e.canonical a.canonical ↔ NarrowsUnsigned e a := by
  -- No name spells an unsigned integer.
  have kept (t : Ty) (s : Scalar) (hs : s ∉ spelled) : t.canonical = .scalar s ↔ t = .scalar s := by
    rw [← standsFor_iff]
    constructor
    · intro h
      cases h with
      | scalar hmem => exact absurd hmem hs
      | self => rfl
    · rintro rfl
      exact .self nofun
  simp [NarrowsUnsigned, kept, spelled]

end Ty

/-- Two types are compatible if the relation says so, and besides if a `u64` is given for an
unsigned integer of fewer bits. A type that is absent is compatible with none, and never is a scalar
with a vector. -/
theorem compatible_iff (e a : Ty) :
    (e.compatible a = true ↔ e ≠ .absent ∧ a ≠ .absent ∧ (e.Accepts a ∨ e.NarrowsUnsigned a)) ∧
    ∀ s k, (Ty.scalar s).compatible (.vector k) = false ∧
      (Ty.vector k).compatible (.scalar s) = false := by
  have absent_iff (t : Ty) : t.canonical = .absent ↔ t = .absent := by
    rw [← Ty.isAbsent_iff, Ty.isAbsent_canonical, Ty.isAbsent_iff]
  have error_iff (t : Ty) : t.canonical = .error ↔ t = .error := by
    rw [← Ty.isError_iff, Ty.isError_canonical, Ty.isError_iff]
  constructor
  · rw [← Ty.compatible_canonical, Ty.compatible_of_reconciled e.isReconcilable_canonical
      a.isReconcilable_canonical, Ty.accepts_iff, ← Ty.narrowsUnsigned_canonical, ne_eq, ne_eq,
      absent_iff, absent_iff, error_iff, error_iff]
    by_cases hsame : e.canonical = a.canonical
    · simp [hsame]
    · simp [hsame, Ty.widens_iff hsame, or_assoc]
  · intro s k
    have apart (h : (Ty.scalar s).widens (.vector k) = true ∨
        (Ty.vector k).widens (.scalar s) = true) : False := by
      rcases h with h | h <;>
        rcases Ty.widens_cases h with ⟨_, _, ⟨⟩, ⟨⟩⟩ | ⟨_, _, ⟨⟩, ⟨⟩⟩
    rw [← Bool.not_eq_true, ← Bool.not_eq_true, Ty.compatible_of_reconciled rfl rfl,
      Ty.compatible_of_reconciled rfl rfl]
    exact ⟨by simpa using fun h => apart (.inl h), by simpa using fun h => apart (.inr h)⟩

/-- The relation does not have the pairs that the test adds to it. -/
theorem compatible_u8_u64 : Ty.u8.compatible .u64 = true ∧ ¬ Ty.u8.Accepts .u64 := by
  constructor
  · rw [Ty.compatible_of_reconciled rfl rfl]
    decide
  · intro h
    rcases Ty.accepts_iff.mp h with h | h | h | h
    · cases h
    · cases h
    · cases h
    · cases h with
      | scalar h =>
        cases h with
        | signed hs => cases hs
        | unsigned _ _ hbits => exact absurd hbits (by decide)
        | float hs => cases hs

end Lanewise
