import Lanewise.Proofs.Check.Run
import Lanewise.Proofs.Lint.Portability
import Lanewise.Proofs.Typing.Printed
import Mathlib.Logic.Relation

/-!
# Kinds in annotations

`kind_of_core`: an annotation is stripped turn by turn until neither reference nor array is left
around its core, and the core is the name of a vector kind if and only if the annotation resolves to
a type with vectors of this kind at its inside. A turn makes the text shorter, and it keeps what the
text resolves to at its inside.
-/

namespace Lanewise

open WrittenType

-- ---------------------------------------------------------------------------
-- Turns
-- ---------------------------------------------------------------------------

/-- One turn takes off a reference or a pair of brackets and trims what is left. -/
inductive Strips : List Char → List Char → Prop
  | mutReference : Strips ('&' :: 'm' :: 'u' :: 't' :: ' ' :: rest) (Text.trimBlanks rest)
  | reference (hmut : ∀ more, rest ≠ 'm' :: 'u' :: 't' :: ' ' :: more) :
    Strips ('&' :: rest) (Text.trimBlanks rest)
  | array : Strips ('[' :: rest ++ [']']) (Text.trimBlanks rest)

theorem strips_iff : Strips cs after ↔ ∃ inner, after = Text.trimBlanks inner ∧
    (layer cs = .reference inner ∨ layer cs = .array inner) := by
  constructor
  · intro h
    cases h with
    | mutReference => exact ⟨_, rfl, .inl rfl⟩
    | @reference rest hmut =>
      rcases layer_cases ('&' :: rest) with
        ⟨more, hcs, -⟩ | ⟨more, hcs, -, hl⟩ | ⟨body, hcs, -⟩ | ⟨href, -⟩
      · exact absurd (List.cons.inj hcs).2 (hmut more)
      · cases hcs
        exact ⟨rest, rfl, .inl hl⟩
      · cases hcs
      · exact absurd rfl (href rest)
    | array => exact ⟨_, rfl, .inr layer_array⟩
  · rintro ⟨inner, rfl, hl⟩
    rcases layer_cases cs with
      ⟨rest, rfl, hl'⟩ | ⟨rest, rfl, hmut, hl'⟩ | ⟨body, rfl, hl'⟩ | ⟨-, -, hl'⟩
    all_goals rw [hl'] at hl
    · obtain rfl : rest = inner := by simpa using hl
      exact .mutReference
    · obtain rfl : rest = inner := by simpa using hl
      exact .reference hmut
    · obtain rfl : body = inner := by simpa using hl
      exact .array
    · simp at hl

theorem no_strips_iff : (∀ after, ¬ Strips cs after) ↔ layer cs = .leaf := by
  constructor
  · intro h
    cases hl : layer cs with
    | leaf => rfl
    | reference inner => exact absurd (strips_iff.mpr ⟨inner, rfl, .inl hl⟩) (h _)
    | array inner => exact absurd (strips_iff.mpr ⟨inner, rfl, .inr hl⟩) (h _)
  · intro hl after h
    obtain ⟨inner, -, hl' | hl'⟩ := strips_iff.mp h <;> rw [hl] at hl' <;> cases hl'

namespace Strips

theorem length_lt (h : Strips before after) : after.length < before.length := by
  obtain ⟨inner, rfl, hl | hl⟩ := strips_iff.mp h
  · exact Nat.lt_of_le_of_lt (Text.length_trimBlanks_le inner) (length_reference hl)
  · exact Nat.lt_of_le_of_lt (Text.length_trimBlanks_le inner) (length_array hl)

theorem coreText_eq (h : Strips before after) : coreText before = coreText after := by
  obtain ⟨inner, rfl, hl | hl⟩ := strips_iff.mp h
  · exact coreText_of_reference hl
  · exact coreText_of_array hl

theorem accessible (cs : List Char) : Acc (fun after before => Strips before after) cs :=
  Subrelation.accessible length_lt (InvImage.accessible List.length (Nat.lt_wfRel.wf.apply _))

end Strips

theorem strips_coreText (cs : List Char) : Relation.ReflTransGen Strips cs (coreText cs) := by
  fun_induction coreText cs with
  | case1 cs inner hl _ ih => exact .head (strips_iff.mpr ⟨inner, rfl, .inl hl⟩) ih
  | case2 cs inner hl _ ih => exact .head (strips_iff.mpr ⟨inner, rfl, .inr hl⟩) ih
  | case3 cs hl => exact .refl

theorem layer_coreText (cs : List Char) : layer (coreText cs) = .leaf := by
  fun_induction coreText cs with
  | case1 _ _ _ _ ih | case2 _ _ _ _ ih => exact ih
  | case3 cs hl => exact hl

theorem coreText_turns (h : Relation.ReflTransGen Strips before after) :
    coreText before = coreText after := by
  induction h with
  | refl => rfl
  | tail _ turn ih => exact ih.trans turn.coreText_eq

/-- The turns end at the core and nowhere else. -/
theorem strips_end_iff : Relation.ReflTransGen Strips start cs ∧ (∀ after, ¬ Strips cs after) ↔
    cs = coreText start := by
  constructor
  · rintro ⟨turns, hend⟩
    rw [coreText_turns turns, coreText_of_leaf (no_strips_iff.mp hend)]
  · rintro rfl
    exact ⟨strips_coreText start, no_strips_iff.mpr (layer_coreText start)⟩

-- ---------------------------------------------------------------------------
-- Vectors at the inside
-- ---------------------------------------------------------------------------

/-- The text resolves to a type with vectors of the kind at its inside. -/
def ResolvesAround (names : NameRule) (k : VectorKind) (cs : List Char) : Prop :=
  ∃ t, resolveText names cs = .ok t ∧ t.innermost = .vector k

theorem Strips.resolvesAround (h : Strips before after) :
    ResolvesAround names k before ↔ ResolvesAround names k after := by
  unfold ResolvesAround
  obtain ⟨inner, rfl, hl | hl⟩ := strips_iff.mp h
  · simp [resolveText_reference hl, Except.map_ok, Ty.innermost]
  · simp [resolveText_array hl, Except.map_ok, Ty.innermost]

theorem Scalar.ofName?_eq_none {name : String} (h : VectorKind.ofName? name = some k) :
    Scalar.ofName? name = none := by
  cases hs : Scalar.ofName? name with
  | none => rfl
  | some s =>
    -- The scalars have few names, and none of them spells a kind.
    have hnone : VectorKind.ofName? name = none := by
      unfold ofName? at hs
      split at hs <;> first | decide +kernel | cases hs
    rw [hnone] at h
    cases h

theorem NameRule.means_vector_iff {names : NameRule} {name : String} :
    (∃ t, names.Means name t ∧ t.innermost = .vector k) ↔ VectorKind.ofName? name = some k := by
  constructor
  · rintro ⟨t, hmeans, ht⟩
    cases hmeans with
    | scalar | custom => cases ht
    | vector _ hk =>
      cases ht
      exact hk
  · intro hk
    exact ⟨.vector k, .vector (Scalar.ofName?_eq_none hk) hk, rfl⟩

theorem resolvesAround_leaf (hl : layer cs = .leaf) :
    ResolvesAround names k cs ↔ VectorKind.ofName? (String.ofList cs) = some k := by
  unfold ResolvesAround
  simp only [resolveText_leaf hl, and_assoc, exists_and_left, NameRule.means_vector_iff]
  refine and_iff_right_of_imp fun hk => ?_
  rintro rfl
  cases VectorKind.ofName?_empty.symm.trans hk

theorem resolvesAround_turns (h : Relation.ReflTransGen Strips before after) :
    ResolvesAround names k before ↔ ResolvesAround names k after := by
  induction h with
  | refl => rfl
  | tail _ turn ih => exact ih.trans turn.resolvesAround

theorem WrittenType.resolvesAround_iff {a : WrittenType} :
    ResolvesAround names k (Text.trimBlanks a.name.toList) ↔
      ∃ t, a.resolve names = .ok t ∧ t.innermost = .vector k := by
  simp only [resolve_ok]
  exact exists_congr fun t => and_congr_left' ⟨resolveText_sound, resolveText_complete⟩

/-- Stripping an annotation comes to an end, always at its core. The core is the name of a vector
kind if and only if the annotation resolves, by whatever rules and in whatever state, to a type with
vectors of this kind below its references and arrays. -/
theorem kind_of_core (r : Rules) (c : Checker) (a : WrittenType) :
    let start := Text.trimBlanks a.name.toList
    Acc (fun after before => Strips before after) start ∧
    (∀ cs, Relation.ReflTransGen Strips start cs ∧ (∀ after, ¬ Strips cs after) ↔
      cs = a.core.toList) ∧
    ∀ k, VectorKind.ofName? a.core = some k ↔
      ∃ t, (r.resolve a).run c = (.ok t, c) ∧ t.innermost = .vector k := by
  intro start
  refine ⟨Strips.accessible start, fun cs => ?_, fun k => ?_⟩
  · rw [core, String.toList_ofList]
    exact strips_end_iff
  · calc VectorKind.ofName? a.core = some k
        ↔ ResolvesAround (r.names c.context) k (coreText start) :=
          (resolvesAround_leaf (layer_coreText start)).symm
      _ ↔ ResolvesAround (r.names c.context) k start :=
          (resolvesAround_turns (strips_coreText start)).symm
      _ ↔ ∃ t, a.resolve (r.names c.context) = .ok t ∧ t.innermost = .vector k :=
          a.resolvesAround_iff
      _ ↔ ∃ t, (r.resolve a).run c = (.ok t, c) ∧ t.innermost = .vector k := by
          simp only [Rules.run_resolve, Prod.mk.injEq, and_true]

end Lanewise
