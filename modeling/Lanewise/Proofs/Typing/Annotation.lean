import Lanewise.Proofs.Typing.WellFormed

/-!
# Resolving annotations

`resolve_ok`: an annotation resolves to exactly the type that it denotes. The text is peeled one
layer at a time, and each layer is one rule of `Spells`.
-/

namespace Lanewise

theorem Except.map_ok {x : Except ε α} {f : α → β} :
    x.map f = .ok b ↔ ∃ a, x = .ok a ∧ f a = b := by
  cases x <;> simp [Except.map]

theorem Ty.ofKind_of_isValid (h : VectorKind.isValid k = true) : Ty.ofKind k = .vector k := by
  simp [Ty.ofKind, h]

theorem NameRule.leaf?_eq_some {names : NameRule} :
    names.leaf? name = some t ↔ names.Means name t := by
  constructor
  · intro h
    unfold NameRule.leaf? at h
    split at h
    · rename_i hs
      cases h
      exact .scalar hs
    · rename_i hs
      split at h
      · rename_i hk
        cases h
        rw [Ty.ofKind_of_isValid (VectorKind.isValid_of_ofName? hk)]
        exact .vector hs hk
      · rename_i hk
        split at h
        · rename_i hn
          cases h
          exact .custom hs hk hn
        · cases h
  · intro h
    cases h with
    | scalar hs => simp [NameRule.leaf?, hs]
    | vector hs hk =>
      simp [NameRule.leaf?, hs, hk, Ty.ofKind_of_isValid (VectorKind.isValid_of_ofName? hk)]
    | custom hs hk hn => simp [NameRule.leaf?, hs, hk, hn]

namespace WrittenType

-- ---------------------------------------------------------------------------
-- Layers
-- ---------------------------------------------------------------------------

theorem bracketed?_eq_some : bracketed? cs = some body ↔ cs = '[' :: body ++ [']'] := by
  constructor
  · intro h
    unfold bracketed? at h
    split at h
    · rename_i rest
      split at h
      · rename_i last
        obtain ⟨front, rfl⟩ := List.getLast?_eq_some_iff.mp (beq_iff_eq.mp last)
        obtain rfl : front = body := by simpa using h
        rfl
      · cases h
    · cases h
  · rintro rfl
    simp [bracketed?]

theorem layer_cases (cs : List Char) :
    (∃ rest, cs = '&' :: 'm' :: 'u' :: 't' :: ' ' :: rest ∧ layer cs = .reference rest) ∨
    (∃ rest, cs = '&' :: rest ∧ (∀ more, rest ≠ 'm' :: 'u' :: 't' :: ' ' :: more) ∧
      layer cs = .reference rest) ∨
    (∃ body, cs = '[' :: body ++ [']'] ∧ layer cs = .array body) ∨
    ((∀ rest, cs ≠ '&' :: rest) ∧ (∀ body, cs ≠ '[' :: body ++ [']']) ∧ layer cs = .leaf) := by
  unfold layer
  split
  · exact .inl ⟨_, rfl, rfl⟩
  · rename_i rest hmut
    exact .inr (.inl ⟨rest, rfl, fun more h => hmut more (by rw [h]), rfl⟩)
  · rename_i hmut href
    cases h : bracketed? cs with
    | some body => exact .inr (.inr (.inl ⟨body, bracketed?_eq_some.mp h, rfl⟩))
    | none =>
      refine .inr (.inr (.inr ⟨href, fun body hcs => ?_, rfl⟩))
      rw [bracketed?_eq_some.mpr hcs] at h
      cases h

-- ---------------------------------------------------------------------------
-- Texts
-- ---------------------------------------------------------------------------

theorem resolveText_leaf (h : layer cs = .leaf) :
    resolveText names cs = .ok t ↔ cs ≠ [] ∧ names.Means (String.ofList cs) t := by
  rw [resolveText]
  split
  · rename_i h'
    rw [h] at h'
    cases h'
  · rename_i h'
    rw [h] at h'
    cases h'
  · rw [← NameRule.leaf?_eq_some]
    cases cs with
    | nil => simp
    | cons c cs =>
      simp only [List.isEmpty_cons, Bool.false_eq_true, ↓reduceIte, ne_eq, reduceCtorEq,
        not_false_eq_true, true_and]
      cases names.leaf? (String.ofList (c :: cs)) <;> simp

theorem resolveText_reference (h : layer cs = .reference body) :
    resolveText names cs = (resolveText names (Text.trimBlanks body)).map .reference := by
  rw [resolveText]
  split <;> rename_i h' <;> rw [h] at h' <;> cases h'
  rfl

theorem resolveText_array (h : layer cs = .array body) :
    resolveText names cs = (resolveText names (Text.trimBlanks body)).map .array := by
  rw [resolveText]
  split <;> rename_i h' <;> rw [h] at h' <;> cases h'
  rfl

theorem resolveText_sound (h : resolveText names cs = .ok t) : Spells names cs t := by
  rcases layer_cases cs with
    ⟨rest, hcs, hl⟩ | ⟨rest, hcs, hmut, hl⟩ | ⟨body, hcs, hl⟩ | ⟨href, harr, hl⟩
  · rw [resolveText_reference hl, Except.map_ok] at h
    obtain ⟨u, hu, rfl⟩ := h
    exact hcs ▸ .mutReference (resolveText_sound hu)
  · rw [resolveText_reference hl, Except.map_ok] at h
    obtain ⟨u, hu, rfl⟩ := h
    exact hcs ▸ .reference hmut (resolveText_sound hu)
  · rw [resolveText_array hl, Except.map_ok] at h
    obtain ⟨u, hu, rfl⟩ := h
    exact hcs ▸ .array (resolveText_sound hu)
  · obtain ⟨hne, hmeans⟩ := (resolveText_leaf hl).mp h
    exact .name hne href harr hmeans
termination_by cs.length
decreasing_by
  · exact Nat.lt_of_le_of_lt (Text.length_trimBlanks_le rest) (length_reference hl)
  · exact Nat.lt_of_le_of_lt (Text.length_trimBlanks_le rest) (length_reference hl)
  · exact Nat.lt_of_le_of_lt (Text.length_trimBlanks_le body) (length_array hl)

theorem layer_array : layer ('[' :: body ++ [']']) = .array body := by
  have h : bracketed? ('[' :: (body ++ [']'])) = some body := bracketed?_eq_some.mpr rfl
  simp only [List.cons_append, layer, h]
  rfl

theorem resolveText_complete (h : Spells names cs t) : resolveText names cs = .ok t := by
  induction h with
  | mutReference _ ih => rw [resolveText_reference rfl, ih]; rfl
  | @reference cs _ hmut _ ih =>
    have hl : layer ('&' :: cs) = .reference cs := by
      unfold layer
      split
      · rename_i rest heq
        exact absurd (List.cons.inj heq).2 (hmut rest)
      · rename_i rest _ heq
        cases heq
        rfl
      · rename_i h
        exact absurd rfl (h cs)
    rw [resolveText_reference hl, ih]
    rfl
  | array _ ih => rw [resolveText_array layer_array, ih]; rfl
  | @name cs _ hne href harr hmeans =>
    rcases layer_cases cs with ⟨rest, hcs, -⟩ | ⟨rest, hcs, -⟩ | ⟨body, hcs, -⟩ | ⟨-, -, hl⟩
    · exact absurd hcs (href _)
    · exact absurd hcs (href _)
    · exact absurd hcs (harr _)
    · exact (resolveText_leaf hl).mpr ⟨hne, hmeans⟩

theorem resolve_ok {a : WrittenType} : a.resolve names = .ok t ↔ a.Denotes names t := by
  unfold resolve Denotes
  constructor
  · intro h
    split at h
    · rename_i hr
      cases h
      exact resolveText_sound hr
    · cases h
    · cases h
  · intro h
    rw [resolveText_complete h]

end WrittenType

/-- Only which names may be used matters. -/
theorem Spells.congr {names names' : NameRule}
    (hn : ∀ name, names.allows name = names'.allows name) (h : Spells names cs t) :
    Spells names' cs t := by
  induction h with
  | mutReference _ ih => exact .mutReference ih
  | reference hmut _ ih => exact .reference hmut ih
  | array _ ih => exact .array ih
  | name hne href harr hmeans =>
    refine .name hne href harr ?_
    cases hmeans with
    | scalar hs => exact .scalar hs
    | vector hs hk => exact .vector hs hk
    | custom hs hk hallows => exact .custom hs hk (hn _ ▸ hallows)

end Lanewise
