import Lanewise.Proofs.Config.Selection
import Lanewise.Proofs.Lint.Annotation
import Lanewise.Proofs.Strictness.Program
import Lanewise.Run.Verdict

/-!
# Types that a configuration declares

`opaque_accepted`: which of the declared names can be used in annotations, on their own and behind
any references and arrays. An annotation is trimmed and stripped before its name is looked up, and
declared names are kept as they were written. So a bare name can always be used, and the declaration
of any other name has no effect (`padded_name_refused`).
-/

namespace Lanewise

open WrittenType

-- ---------------------------------------------------------------------------
-- Blanks at the end
-- ---------------------------------------------------------------------------

namespace Text

theorem rdropWhile_cons (p : Char → Bool) (c : Char) (cs : List Char) :
    (c :: cs).rdropWhile p =
      if cs.rdropWhile p = [] ∧ p c = true then [] else c :: cs.rdropWhile p := by
  simp only [List.rdropWhile, List.reverse_cons, List.dropWhile_append, List.isEmpty_iff,
    List.reverse_eq_nil_iff]
  by_cases hrest : cs.reverse.dropWhile p = []
  · by_cases hc : p c = true <;> simp [hrest, hc]
  · simp [hrest]

theorem trimBlanks_cons (c : Char) (cs : List Char) :
    trimBlanks (c :: cs) = if isBlank c then trimBlanks cs else c :: cs.rdropWhile isBlank := by
  by_cases hc : isBlank c = true
  · simp [trimBlanks, hc]
  · have hkept : trimBlanks (c :: cs) = (c :: cs).rdropWhile isBlank := by
      simp [trimBlanks, List.rdropWhile, hc]
    rw [hkept, rdropWhile_cons]
    simp [hc]

theorem trimBlanks_rdropWhile (cs : List Char) :
    trimBlanks (cs.rdropWhile isBlank) = trimBlanks cs := by
  induction cs with
  | nil => rfl
  | cons c cs ih =>
    rw [rdropWhile_cons, trimBlanks_cons]
    by_cases hc : isBlank c = true
    · by_cases hrest : cs.rdropWhile isBlank = []
      · simp [hc, hrest, ← ih]
      · simp [hc, hrest, trimBlanks_cons, ih]
    · simp [hc, trimBlanks_cons, List.rdropWhile_idempotent]

theorem rdropWhile_eq_nil : cs.rdropWhile isBlank = [] ↔ trimBlanks cs = [] := by
  constructor
  · intro h
    rw [← trimBlanks_rdropWhile, h]
    rfl
  · intro h
    induction cs with
    | nil => rfl
    | cons c cs ih =>
      rw [trimBlanks_cons] at h
      split at h
      case isTrue hc => simp [rdropWhile_cons, ih h, hc]
      case isFalse => cases h

end Text

-- ---------------------------------------------------------------------------
-- Wrapped names
-- ---------------------------------------------------------------------------

inductive Wrapper
  | array | reference | mutReference
  deriving DecidableEq

namespace Wrapper

def around : Wrapper → List Char → List Char
  | .array, cs => '[' :: cs ++ [']']
  | .reference, cs => '&' :: cs
  | .mutReference, cs => '&' :: 'm' :: 'u' :: 't' :: ' ' :: cs

/-- The text behind wrappers, the innermost of which is the last. -/
def wrap (ws : List Wrapper) (cs : List Char) : List Char := ws.foldr around cs

/-- Behind a `&` the text would be read as a mutable reference to what follows. -/
def ReadsMut (cs : List Char) : Prop :=
  ∃ rest, cs = 'm' :: 'u' :: 't' :: ' ' :: rest ∧ Text.trimBlanks rest ≠ []

theorem strips_around {w : Wrapper} (hsome : Text.trimBlanks cs ≠ [])
    (hmut : w = .reference → ¬ ReadsMut cs) :
    Strips (Text.trimBlanks (w.around cs)) (Text.trimBlanks cs) := by
  rw [← Text.trimBlanks_rdropWhile cs]
  cases w with
  | array =>
    have hkept : Text.trimBlanks (around .array cs) = '[' :: cs ++ [']'] := by
      simp [around, Text.trimBlanks_cons, Text.isBlank]
    rw [hkept, Text.trimBlanks_rdropWhile]
    exact .array
  | reference =>
    have hkept : Text.trimBlanks (around .reference cs) = '&' :: cs.rdropWhile Text.isBlank := by
      simp [around, Text.trimBlanks_cons, Text.isBlank]
    rw [hkept]
    refine .reference fun more hmore => hmut rfl ?_
    obtain ⟨tail, htail⟩ := List.rdropWhile_prefix Text.isBlank cs
    have hcs : cs = 'm' :: 'u' :: 't' :: ' ' :: (more ++ tail) := by
      rw [← htail, hmore]
      rfl
    refine ⟨more ++ tail, hcs, fun hblank => ?_⟩
    -- With only blanks behind it, the blank of `mut ` would have been dropped as well.
    have hend := Text.rdropWhile_eq_nil.mpr hblank
    rw [hcs] at hmore
    simp [Text.rdropWhile_cons, hend, Text.isBlank] at hmore
  | mutReference =>
    have hend : cs.rdropWhile Text.isBlank ≠ [] := mt Text.rdropWhile_eq_nil.mp hsome
    have hkept : Text.trimBlanks (around .mutReference cs) =
        '&' :: 'm' :: 'u' :: 't' :: ' ' :: cs.rdropWhile Text.isBlank := by
      simp [around, Text.trimBlanks_cons, Text.rdropWhile_cons, hend, Text.isBlank]
    rw [hkept]
    exact .mutReference

theorem strips_wrap {ws : List Wrapper} (hsome : Text.trimBlanks cs ≠ [])
    (hmut : ws.getLast? = some .reference → ¬ ReadsMut cs) :
    Relation.ReflTransGen Strips (Text.trimBlanks (wrap ws cs)) (Text.trimBlanks cs) := by
  induction ws with
  | nil => exact .refl
  | cons w ws ih =>
    cases ws with
    | nil => exact .single (strips_around hsome fun hw => hmut (by rw [hw]; rfl))
    | cons v vs =>
      -- What is wrapped begins with a bracket or a `&`.
      obtain ⟨first, rest, hfirst, hcs⟩ : ∃ first rest, (first = '[' ∨ first = '&') ∧
          wrap (v :: vs) cs = first :: rest := by
        cases v
        · exact ⟨_, _, .inl rfl, rfl⟩
        · exact ⟨_, _, .inr rfl, rfl⟩
        · exact ⟨_, _, .inr rfl, rfl⟩
      have hinner : Text.trimBlanks (wrap (v :: vs) cs) ≠ [] := by
        rw [hcs, Text.trimBlanks_cons]
        rcases hfirst with rfl | rfl <;> simp [Text.isBlank]
      refine .head (strips_around (w := w) hinner fun _ => ?_) (ih (by simpa using hmut))
      rintro ⟨more, hmore, -⟩
      have hm : first = 'm' := List.head_eq_of_cons_eq (hcs.symm.trans hmore)
      rcases hfirst with rfl | rfl <;> cases hm

end Wrapper

theorem Strips.resolves (h : Strips before after) :
    (∃ t, resolveText names before = .ok t) ↔ ∃ t, resolveText names after = .ok t := by
  obtain ⟨inner, rfl, hl | hl⟩ := strips_iff.mp h
  · simp [resolveText_reference hl, Except.map_ok]
  · simp [resolveText_array hl, Except.map_ok]

theorem resolves_turns (h : Relation.ReflTransGen Strips before after) :
    (∃ t, resolveText names before = .ok t) ↔ ∃ t, resolveText names after = .ok t := by
  induction h with
  | refl => rfl
  | tail _ turn ih => exact ih.trans turn.resolves

-- ---------------------------------------------------------------------------
-- Bare names
-- ---------------------------------------------------------------------------

/-- The name has no blanks around it and is neither a reference nor an array. -/
structure IsBareName (name : String) : Prop where
  trimmed : Text.trim name = name
  notReference : ∀ rest, name.toList ≠ '&' :: rest
  notArray : ∀ rest, name.toList ≠ '[' :: rest ++ [']']

theorem isBareName_iff {name : String} :
    IsBareName name ↔ Text.trimBlanks name.toList = name.toList ∧ layer name.toList = .leaf := by
  have htrim : Text.trim name = name ↔ Text.trimBlanks name.toList = name.toList := by
    rw [Text.trim, ← String.toList_inj, String.toList_ofList]
  rw [← htrim]
  rcases layer_cases name.toList with
    ⟨rest, hcs, hl⟩ | ⟨rest, hcs, -, hl⟩ | ⟨body, hcs, hl⟩ | ⟨href, harr, hl⟩
  · exact ⟨fun h => absurd hcs (h.notReference _), fun h => by simp [hl] at h⟩
  · exact ⟨fun h => absurd hcs (h.notReference _), fun h => by simp [hl] at h⟩
  · exact ⟨fun h => absurd hcs (h.notArray _), fun h => by simp [hl] at h⟩
  · exact ⟨fun h => ⟨h.trimmed, hl⟩, fun h => ⟨h.1, href, harr⟩⟩

theorem isTrimmed_turns (h : Relation.ReflTransGen Strips (Text.trimBlanks cs) after) :
    Text.IsTrimmed after := by
  cases h with
  | refl => exact Text.isTrimmed_trimBlanks cs
  | tail _ turn =>
    obtain ⟨inner, rfl, -⟩ := strips_iff.mp turn
    exact Text.isTrimmed_trimBlanks inner

theorem isBareName_of_leafName? {a : WrittenType} {name : String} (h : a.leafName? = some name) :
    IsBareName name := by
  obtain ⟨turns, hend⟩ := strips_end_iff.mpr (rfl : coreText (Text.trimBlanks a.name.toList) = _)
  have hname : name.toList = coreText (Text.trimBlanks a.name.toList) := by
    simp only [leafName?] at h
    split at h
    · cases h
    · rw [← Option.some.inj h, String.toList_ofList]
  rw [isBareName_iff, hname]
  exact ⟨Text.trimBlanks_of_isTrimmed (isTrimmed_turns turns), no_strips_iff.mp hend⟩

-- ---------------------------------------------------------------------------
-- Declared names
-- ---------------------------------------------------------------------------

theorem WrittenType.resolve_eq_ok (a : WrittenType) :
    a.resolve names = .ok t ↔ resolveText names (Text.trimBlanks a.name.toList) = .ok t :=
  resolve_ok.trans ⟨resolveText_complete, resolveText_sound⟩

namespace CheckOptions

/-- A checker that was set up with the options finds a type for each annotation with this text,
whatever it has checked before. -/
def Accepts (o : CheckOptions) (text : String) : Prop :=
  ∀ c : Checker, c.context.opaqueNames = (Checker.fresh o).context.opaqueNames →
    ∀ a : WrittenType, a.name = text → ∃ t, ((o.rules.resolve a).run c).1 = .ok t

def without (o : CheckOptions) (name : String) : CheckOptions :=
  { o with opaqueTypes := o.opaqueTypes.filter (· != name) }

variable {o : CheckOptions} {name text : String}

theorem accepts_iff :
    o.Accepts text ↔ ∃ t, resolveText o.names (Text.trimBlanks text.toList) = .ok t := by
  constructor
  · intro h
    obtain ⟨t, ht⟩ := h (.fresh o) rfl ⟨text, false, .none⟩ rfl
    rw [Rules.run_resolve] at ht
    exact ⟨t, (resolve_eq_ok ⟨text, false, .none⟩).mp ht⟩
  · rintro ⟨t, ht⟩ c hc a rfl
    have hnames : o.rules.names c.context = o.names := by rw [Rules.names, hc]; rfl
    refine ⟨t, ?_⟩
    rw [Rules.run_resolve, hnames]
    exact (resolve_eq_ok a).mpr ht

theorem accepts_wrap {ws : List Wrapper} (hsome : Text.trimBlanks cs ≠ [])
    (hmut : ws.getLast? = some .reference → ¬ Wrapper.ReadsMut cs) :
    o.Accepts (String.ofList (Wrapper.wrap ws cs)) ↔ o.Accepts (String.ofList cs) := by
  simp only [accepts_iff, String.toList_ofList]
  exact resolves_turns (Wrapper.strips_wrap hsome hmut)

theorem accepts_of_isBareName (hbare : IsBareName name) (hsome : name ≠ "")
    (hname : name ∈ o.opaqueTypes) : o.Accepts name := by
  obtain ⟨htrimmed, hl⟩ := isBareName_iff.mp hbare
  have hallowed : o.names.allows name = true := by simp [allows_names, hname]
  have hleaf : ∃ t, o.names.leaf? name = some t := by
    unfold NameRule.leaf?
    split
    · exact ⟨_, rfl⟩
    split
    · exact ⟨_, rfl⟩
    · exact ⟨_, if_pos hallowed⟩
  obtain ⟨t, ht⟩ := hleaf
  refine accepts_iff.mpr ⟨t, ?_⟩
  rw [htrimmed, resolveText_leaf hl, String.ofList_toList]
  exact ⟨by simpa using hsome, NameRule.leaf?_eq_some.mp ht⟩

/-- A name that is not bare is never looked up, so its declaration has no effect. -/
theorem accepts_without (hbare : ¬ IsBareName name) :
    o.Accepts text ↔ (o.without name).Accepts text := by
  let a : WrittenType := ⟨text, false, .none⟩
  have halike : a.Alike True o.names (o.without name).names := by
    refine alike_of_agreesOn fun other hother _ => ?_
    have hne : other ≠ name := fun h => hbare (h ▸ isBareName_of_leafName? hother)
    simp [allows_names, without, hne]
  have hsame (t : Ty) : resolveText (o.without name).names (Text.trimBlanks text.toList) = .ok t ↔
      resolveText o.names (Text.trimBlanks text.toList) = .ok t := by
    rw [← resolve_eq_ok a, ← resolve_eq_ok a, halike (.inl trivial)]
  simp only [accepts_iff, hsame]

end CheckOptions

namespace Config

variable {c : Config} {name : String}

theorem nameListIssues_eq_nil {names : List String} (h : nameListIssues n names = []) :
    ∀ name ∈ names, Text.trim name ≠ "" := by
  induction names generalizing n with
  | nil => simp
  | cons first rest ih =>
    obtain ⟨hfirst, hrest⟩ := List.append_eq_nil_iff.mp h
    refine List.forall_mem_cons.mpr ⟨fun hblank => ?_, ih hrest⟩
    simp [hblank] at hfirst

theorem trim_ne_empty (h : c.validate = .ok ()) (hname : name ∈ c.opaqueTypes) :
    Text.trim name ≠ "" := by
  unfold validate at h
  split at h
  case h_2 => cases h
  case h_1 hissues =>
    have hnames := (List.append_eq_nil_iff.mp (List.append_eq_nil_iff.mp hissues).1).2
    exact nameListIssues_eq_nil hnames name hname

theorem opaqueTypes_ofConfig {host : Host} {target : String} {o : RunOptions}
    (ho : RunOptions.ofConfig host c target = .ok o) : o.opaqueTypes = c.opaqueTypes := by
  unfold RunOptions.ofConfig at ho
  split at ho
  · cases ho
  · obtain rfl := Except.ok.inj ho
    rfl

open Wrapper (wrap ReadsMut)

theorem opaque_accepted {host : Host} {c : Config} {target : String} {o : RunOptions}
    {name : String} (h : c.validate = .ok ()) (ho : RunOptions.ofConfig host c target = .ok o)
    (hname : name ∈ c.opaqueTypes) :
    (∀ ws : List Wrapper, (ws.getLast? = some .reference → ¬ ReadsMut name.toList) →
      (o.Accepts (String.ofList (wrap ws name.toList)) ↔
        IsBareName name ∨ (o.toCheckOptions.without name).Accepts name)) ∧
    ∀ (ws : List Wrapper) (rest : String), name = "mut " ++ rest → Text.trim rest ≠ "" →
      (o.Accepts (String.ofList (wrap (ws ++ [.reference]) name.toList)) ↔ o.Accepts rest) := by
  have hsome : Text.trimBlanks name.toList ≠ [] := by
    simpa [Text.trim] using trim_ne_empty h hname
  refine ⟨fun ws hmut => ?_, fun ws rest hrest hne => ?_⟩
  · rw [CheckOptions.accepts_wrap hsome hmut, String.ofList_toList]
    by_cases hbare : IsBareName name
    · have hempty : name ≠ "" := by
        rintro rfl
        exact hsome rfl
      have hdeclared : name ∈ o.opaqueTypes := by rwa [opaqueTypes_ofConfig ho]
      exact iff_of_true (CheckOptions.accepts_of_isBareName hbare hempty hdeclared) (.inl hbare)
    · rw [or_iff_right hbare]
      exact CheckOptions.accepts_without hbare
  · subst hrest
    have hwrap : wrap (ws ++ [.reference]) ("mut " ++ rest).toList =
        wrap (ws ++ [.mutReference]) rest.toList := by
      simp [wrap, Wrapper.around]
    rw [hwrap, CheckOptions.accepts_wrap (by simpa [Text.trim] using hne) (by simp),
      String.ofList_toList]

/-- Two names, one of which reads as a mutable reference to the other behind a `&`. -/
def twoNames : Config where
  opaqueTypes := ["Grid", "mut Grid"]

theorem opaque_accepted_twoNames : ∃ o,
    RunOptions.ofConfig .arm64 twoNames "" = .ok o ∧
    o.Accepts "[&mut Grid]" ∧ o.Accepts "&[mut Grid]" := by
  have hvalid : twoNames.validate = .ok () := by decide +kernel
  have htarget : resolveTarget .arm64 (some twoNames) "" =
      .ok Host.arm64.detector := by decide +kernel
  have ho : RunOptions.ofConfig .arm64 twoNames "" =
      .ok { detector := Host.arm64.detector, opaqueTypes := ["Grid", "mut Grid"] } := by
    simp only [RunOptions.ofConfig, htarget]
    rfl
  have hgrid : "Grid" ∈ twoNames.opaqueTypes := by decide
  have hmutGrid : "mut Grid" ∈ twoNames.opaqueTypes := by decide
  have hbare : ∀ name ∈ twoNames.opaqueTypes, IsBareName name := by
    simp only [isBareName_iff]
    decide +kernel
  obtain ⟨hplain, -⟩ := opaque_accepted hvalid ho hgrid
  obtain ⟨hwrapped, hmut⟩ := opaque_accepted hvalid ho hmutGrid
  refine ⟨_, ho, (hmut [.array] "Grid" rfl (by decide +kernel)).mpr ?_, ?_⟩
  · exact (hplain [] (by simp)).mpr (.inl (hbare _ hgrid))
  · exact (hwrapped [.reference, .array] (by simp)).mpr (.inl (hbare _ hmutGrid))

theorem padded_name_refused :
    let c : Config := { opaqueTypes := [" Grid"] }
    c.validate = .ok () ∧ c.isLenient = false ∧ ∃ o, RunOptions.ofConfig .arm64 c "" = .ok o ∧
      ((o.rules.resolve ⟨" Grid", false, ⟨2, 9⟩⟩).run (.fresh o.toCheckOptions)).1 =
        .error ⟨⟨2, 9⟩, .unknownType "Grid" " Grid"⟩ := by
  refine ⟨by decide +kernel, rfl,
    ⟨{ detector := Host.arm64.detector, opaqueTypes := [" Grid"] }, ?_, ?_⟩⟩
  · rfl
  · rw [Rules.run_resolve]
    decide +kernel

end Config

end Lanewise
