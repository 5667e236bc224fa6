import Lanewise.Lint.Finding
import Lanewise.Proofs.Typing.Annotation

/-!
# Names in annotations

Behind its references and arrays an annotation has one name, and only what that name stands for
matters to its type (`resolveText_factors`). Which names may be used without a definition decides
nothing else, so two rules about names that agree on this one resolve the annotation alike.
-/

namespace Lanewise

namespace WrittenType

def leafName? (a : WrittenType) : Option String :=
  let cs := coreText (Text.trimBlanks a.name.toList)
  if cs.isEmpty then none else some (String.ofList cs)

def resolveLeaf (names : NameRule) (cs : List Char) : Except String Ty :=
  if cs.isEmpty then .error ""
  else
    match names.leaf? (String.ofList cs) with
    | some t => .ok t
    | none => .error (String.ofList cs)

theorem coreText_of_leaf (h : layer cs = .leaf) : coreText cs = cs := by
  rw [coreText]
  split <;> rename_i h' <;> rw [h] at h' <;> cases h'

theorem coreText_of_reference {inner : List Char} (h : layer cs = .reference inner) :
    coreText cs = coreText (Text.trimBlanks inner) := by
  rw [coreText]
  split <;> rename_i h' <;> rw [h] at h' <;> cases h'
  rfl

theorem coreText_of_array {inner : List Char} (h : layer cs = .array inner) :
    coreText cs = coreText (Text.trimBlanks inner) := by
  rw [coreText]
  split <;> rename_i h' <;> rw [h] at h' <;> cases h'
  rfl

theorem resolveText_of_leaf (h : layer cs = .leaf) :
    resolveText names cs = resolveLeaf names cs := by
  rw [resolveText]
  split <;> rename_i h' <;> rw [h] at h' <;> cases h'
  rfl

/-- The layers of an annotation are put around the type of its name, whatever the rule about names
is. -/
theorem resolveText_factors (cs : List Char) :
    ∃ wrap : Ty → Ty,
      ∀ names, resolveText names cs = (resolveLeaf names (coreText cs)).map wrap := by
  cases hl : layer cs with
  | leaf =>
    refine ⟨id, fun names => ?_⟩
    rw [resolveText_of_leaf hl, coreText_of_leaf hl]
    cases resolveLeaf names cs <;> rfl
  | reference inner =>
    obtain ⟨wrap, hwrap⟩ := resolveText_factors (Text.trimBlanks inner)
    refine ⟨fun t => .reference (wrap t), fun names => ?_⟩
    rw [resolveText_reference hl, coreText_of_reference hl, hwrap]
    cases resolveLeaf names (coreText (Text.trimBlanks inner)) <;> rfl
  | array inner =>
    obtain ⟨wrap, hwrap⟩ := resolveText_factors (Text.trimBlanks inner)
    refine ⟨fun t => .array (wrap t), fun names => ?_⟩
    rw [resolveText_array hl, coreText_of_array hl, hwrap]
    cases resolveLeaf names (coreText (Text.trimBlanks inner)) <;> rfl
termination_by cs.length
decreasing_by
  · exact Nat.lt_of_le_of_lt (Text.length_trimBlanks_le inner) (length_reference hl)
  · exact Nat.lt_of_le_of_lt (Text.length_trimBlanks_le inner) (length_array hl)

end WrittenType

section
variable {always : Prop} {names names' : NameRule}

/-- The second rule agrees with the first on a name, if the first allows it or in any case. -/
def NameRule.AgreesOn (always : Prop) (names names' : NameRule) (name : String) : Prop :=
  always ∨ names.allows name = true → names'.allows name = names.allows name

def WrittenType.Alike (always : Prop) (names names' : NameRule) (a : WrittenType) : Prop :=
  always ∨ (∃ t, a.resolve names = .ok t) → a.resolve names' = a.resolve names

theorem NameRule.AgreesOn.leaf? (h : AgreesOn always names names' name)
    (hfound : always ∨ (names.leaf? name).isSome = true) :
    names'.leaf? name = names.leaf? name := by
  unfold NameRule.leaf? at hfound ⊢
  cases hscalar : Scalar.ofName? name with
  | some s => rfl
  | none =>
    cases hkind : VectorKind.ofName? name with
    | some k => rfl
    | none =>
      rw [hscalar, hkind] at hfound
      dsimp only at hfound ⊢
      rw [h (hfound.imp_right fun hsome => ?_)]
      by_contra hno
      simp [hno] at hsome

theorem WrittenType.resolveLeaf_congr
    (h : cs ≠ [] → NameRule.AgreesOn always names names' (String.ofList cs))
    (hfound : always ∨ ∃ t, resolveLeaf names cs = .ok t) :
    resolveLeaf names' cs = resolveLeaf names cs := by
  cases cs with
  | nil => rfl
  | cons c cs =>
    have hsome : always ∨ (names.leaf? (String.ofList (c :: cs))).isSome = true := by
      refine hfound.imp_right fun ⟨t, ht⟩ => ?_
      cases hleaf : names.leaf? (String.ofList (c :: cs)) with
      | some u => rfl
      | none =>
        simp only [resolveLeaf, hleaf] at ht
        cases ht
    have hleaf := (h (List.cons_ne_nil c cs)).leaf? hsome
    simp only [resolveLeaf, hleaf]

theorem WrittenType.alike_of_agreesOn {a : WrittenType}
    (h : ∀ name ∈ a.leafName?, NameRule.AgreesOn always names names' name) :
    a.Alike always names names' := by
  intro hfound
  obtain ⟨wrap, hwrap⟩ := resolveText_factors (Text.trimBlanks a.name.toList)
  unfold leafName? at h
  unfold resolve at hfound ⊢
  rw [hwrap names] at hfound ⊢
  rw [hwrap names']
  generalize coreText (Text.trimBlanks a.name.toList) = cs at h hfound ⊢
  rw [resolveLeaf_congr (fun hne => h _ ?_) (hfound.imp_right fun ⟨t, ht⟩ => ?_)]
  · simp [hne]
  · cases hleaf : resolveLeaf names cs with
    | ok u => exact ⟨u, rfl⟩
    | error name =>
      rw [hleaf] at ht
      dsimp only [Except.map] at ht
      split at ht
      · rename_i hok
        cases hok
      · cases ht
      · cases ht

end

end Lanewise
