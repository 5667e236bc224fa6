import Lanewise.Target.Detector

/-!
# What a target lacks

`missing_report`: the features reported missing are those that have to be added, no more and no
fewer. The table of alternatives makes this true: no two alternatives of a kind concern one
architecture, and none is empty, so the required features depend on the architecture alone and are
empty only if the kind cannot run there.
-/

namespace Lanewise

-- ---------------------------------------------------------------------------
-- Feature sets
-- ---------------------------------------------------------------------------

namespace FeatureSet

theorem mem_insertInto (f g : Feature) (features : List Feature) :
    g ∈ insertInto f features ↔ g = f ∨ g ∈ features := by
  induction features with
  | nil => simp [insertInto]
  | cons first rest ih =>
    unfold insertInto
    split
    · simp
    split
    case isTrue hsame => simp [beq_iff_eq.mp hsame]
    case isFalse => simp [ih, or_left_comm]

theorem has_adjoin (s : FeatureSet) (features : List Feature) (f : Feature) :
    (s.adjoin features).has f = true ↔ s.has f = true ∨ f ∈ features := by
  induction features generalizing s with
  | nil => simp [adjoin]
  | cons first rest ih =>
    have hinsert : (s.insert first).has f = true ↔ f = first ∨ s.has f = true := by
      simp [has, insert, mem_insertInto]
    exact (ih (s.insert first)).trans (by rw [hinsert]; simp [or_assoc, or_left_comm])

theorem has_ofList (features : List Feature) (f : Feature) :
    (ofList features).has f = true ↔ f ∈ features := by
  rw [ofList, has_adjoin]
  simp [has, empty]

theorem hasAll_iff (s : FeatureSet) (features : List Feature) :
    s.hasAll features = true ↔ ∀ f ∈ features, s.has f = true := by
  simp [hasAll]

end FeatureSet

-- ---------------------------------------------------------------------------
-- The table of alternatives
-- ---------------------------------------------------------------------------

namespace VectorKind

variable {k : VectorKind} {r r' : Requirement}

theorem features_ne_nil (h : r ∈ k.requirements) : r.features ≠ [] := by
  have hall : ∀ r ∈ k.requirements, r.features ≠ [] := by
    cases k with
    | invalid => simp [requirements]
    | _ => decide
  exact hall r h

/-- The families of a kind's alternatives do not overlap. -/
theorem eq_of_appliesTo (h : r ∈ k.requirements) (h' : r' ∈ k.requirements)
    (harch : r.appliesTo arch = true) (harch' : r'.appliesTo arch = true) : r = r' := by
  have hapart : ∀ r ∈ k.requirements, ∀ r' ∈ k.requirements, ∀ arch ∈ r.arches,
      arch ∈ r'.arches → r = r' := by
    cases k with
    | invalid => simp [requirements]
    | _ => decide
  exact hapart r h r' h' arch (List.contains_iff_mem.mp harch) (List.contains_iff_mem.mp harch')

end VectorKind

-- ---------------------------------------------------------------------------
-- Required features
-- ---------------------------------------------------------------------------

namespace Detector

variable {d e : Detector} {k : VectorKind} {features features' : List Feature}

theorem ne_nil_of_mem_alternatives (h : features ∈ d.alternatives k) : features ≠ [] := by
  simp only [alternatives, List.mem_map, List.mem_filter] at h
  obtain ⟨r, ⟨hr, -⟩, rfl⟩ := h
  exact VectorKind.features_ne_nil hr

theorem alternatives_unique (h : features ∈ d.alternatives k) (h' : features' ∈ d.alternatives k) :
    features = features' := by
  simp only [alternatives, List.mem_map, List.mem_filter] at h h'
  obtain ⟨r, ⟨hr, harch⟩, rfl⟩ := h
  obtain ⟨r', ⟨hr', harch'⟩, rfl⟩ := h'
  rw [VectorKind.eq_of_appliesTo hr hr' harch harch']

theorem requiredFeatures_mem (h : d.alternatives k ≠ []) :
    d.requiredFeatures k ∈ d.alternatives k := by
  simp only [requiredFeatures]
  cases hmet : (d.alternatives k).find? d.features.hasAll with
  | some features => exact List.mem_of_find?_eq_some hmet
  | none =>
    obtain ⟨first, rest, hcons⟩ := List.exists_cons_of_ne_nil h
    simp only [hcons, List.headD_cons, Option.getD_none, List.mem_cons_self]

theorem mem_alternatives :
    features ∈ d.alternatives k ↔ d.requiredFeatures k = features ∧ features ≠ [] := by
  constructor
  · intro h
    exact ⟨alternatives_unique (requiredFeatures_mem (List.ne_nil_of_mem h)) h,
      ne_nil_of_mem_alternatives h⟩
  · rintro ⟨rfl, hsome⟩
    refine requiredFeatures_mem fun hnone => hsome ?_
    simp [requiredFeatures, hnone]

/-- What one target requires tells for every target of its architecture whether it runs a kind. -/
theorem isSupported_iff (harch : e.arch = d.arch) :
    e.isSupported k = true ↔
      d.requiredFeatures k ≠ [] ∧ ∀ f ∈ d.requiredFeatures k, e.has f = true := by
  have hany : e.isSupported k = (d.alternatives k).any e.features.hasAll := by
    simp [isSupported, alternatives, harch, List.any_filter, Function.comp_def]
  simp only [hany, List.any_eq_true, mem_alternatives, FeatureSet.hasAll_iff, has]
  constructor
  · rintro ⟨features, ⟨rfl, hsome⟩, hall⟩
    exact ⟨hsome, hall⟩
  · rintro ⟨hsome, hall⟩
    exact ⟨_, ⟨rfl, hsome⟩, hall⟩

theorem mem_missingFeatures :
    f ∈ d.missingFeatures k ↔ f ∈ d.requiredFeatures k ∧ d.has f = false := by
  simp [missingFeatures]

theorem missingFeatures_eq_nil :
    d.missingFeatures k = [] ↔ ∀ f ∈ d.requiredFeatures k, d.has f = true := by
  simp [missingFeatures]

theorem explain_eq_empty : d.explain k = "" ↔ d.isSupported k = true := by
  unfold explain
  split
  case isTrue h => simp [h]
  case isFalse h =>
    simp only [h]
    split <;> simp

theorem missing_report (arch : Arch) (features : List Feature) (k : VectorKind) :
    let d := ofFeatures arch features
    (d.isSupported k = true ↔ d.requiredFeatures k ≠ [] ∧ d.missingFeatures k = []) ∧
    (d.explain k = "" ↔ d.isSupported k = true) ∧
    (d.requiredFeatures k ≠ [] →
      (ofFeatures arch (features ++ d.missingFeatures k)).isSupported k = true ∧
      ∀ e : Detector, e.arch = arch → e.isSupported k = true →
        (∀ f, d.has f = true → e.has f = true) → ∀ f ∈ d.missingFeatures k, e.has f = true) ∧
    (d.requiredFeatures k = [] → ∀ e : Detector, e.arch = arch → e.isSupported k = false) := by
  intro d
  refine ⟨?_, explain_eq_empty, fun hsome => ⟨?_, ?_⟩, ?_⟩
  · rw [isSupported_iff rfl, missingFeatures_eq_nil]
  · have hrequired : ∀ f ∈ d.requiredFeatures k, f ∈ features ++ d.missingFeatures k := by
      intro f hf
      cases hhas : d.has f with
      | true => exact List.mem_append_left _ ((FeatureSet.has_ofList features f).mp hhas)
      | false => exact List.mem_append_right _ (mem_missingFeatures.mpr ⟨hf, hhas⟩)
    have harch : (ofFeatures arch (features ++ d.missingFeatures k)).arch = d.arch := rfl
    exact (isSupported_iff harch).mpr ⟨hsome, fun f hf =>
      (FeatureSet.has_ofList _ f).mpr (hrequired f hf)⟩
  · intro e harch hruns _ f hf
    exact ((isSupported_iff harch).mp hruns).2 f (mem_missingFeatures.mp hf).1
  · intro hnone e harch
    refine Bool.eq_false_iff.mpr fun hruns => ?_
    exact ((isSupported_iff harch).mp hruns).1 hnone

/-- Bytes in registers of 512 bits need one feature more than is there. Vectors of 256 bits never
run on Arm, whatever its features. -/
theorem missing_report_wide :
    ((ofFeatures .x86_64 [.sse2, .sse2, .avx512f, .other 77]).missingFeatures .i8x64 = [.avx512bw] ∧
      (ofFeatures .x86_64 ([.sse2, .sse2, .avx512f, .other 77] ++ [.avx512bw])).isSupported .i8x64 =
        true) ∧
    ∀ e : Detector, e.arch = .aarch64 → e.isSupported .f32x8 = false := by
  obtain ⟨-, -, hadd, -⟩ := missing_report .x86_64 [.sse2, .sse2, .avx512f, .other 77] .i8x64
  obtain ⟨-, -, -, hnever⟩ := missing_report .aarch64 [.neon, .avx] .f32x8
  exact ⟨⟨by decide, (hadd (by decide)).1⟩, hnever (by decide)⟩

end Detector

end Lanewise
