import Lanewise.Config.Basic
import Lanewise.Proofs.Target.Missing
import Lanewise.Proofs.Target.Naming
import Mathlib.Data.List.Nodup

/-!
# Selecting the targets of a configuration

`known_selected`: in a valid configuration every known target can be selected by its name, and a
profile then gives the processor it describes, also if it shares its name with a level or an
architecture. Names are trimmed when a target is selected and not when profiles are validated, so
this leaves out profiles with blanks around their names (`padded_unselectable`).
-/

namespace Lanewise

-- ---------------------------------------------------------------------------
-- Target names
-- ---------------------------------------------------------------------------

namespace Text

theorem length_trim_le (s : String) : (trim s).length ≤ s.length := by
  simpa [trim, ← String.length_toList] using length_trimBlanks_le s.toList

theorem length_trim_lt {s : String} (h : trim s ≠ s) : (trim s).length < s.length := by
  refine Nat.lt_of_le_of_ne (length_trim_le s) fun hlength => h ?_
  have hsame : trimBlanks s.toList = s.toList :=
    (trimBlanks_sublist s.toList).eq_of_length
      (by simpa [trim, ← String.length_toList] using hlength)
  simp [trim, hsame]

theorem length_lower (s : String) : (lower s).length = s.length := by
  simp [lower, ← String.length_toList]

end Text

namespace Detector

variable {host : Host} {d : Detector} {name target : String}

/-- A target that is no profile is called the host, a level, or an architecture as it was
written. -/
theorem forTarget_name (h : forTarget host target = .ok d) :
    d.name ∈ host.detector.name :: levels ∨
      d.name = Text.lower (Text.trim target) ∧ (Arch.ofName? d.name).isSome = true := by
  rcases forTarget_cases h with rfl | ⟨level, features, hlevel, rfl⟩ | hwritten
  · exact .inl List.mem_cons_self
  · exact .inl (List.mem_cons_of_mem _ (mem_levels hlevel))
  · exact .inr hwritten

theorem trim_host_name (host : Host) : Text.trim host.detector.name = host.detector.name := by
  have htrimmed (arch : Arch) : Text.trim ("native(" ++ arch.text ++ ")") =
      "native(" ++ arch.text ++ ")" := by
    cases arch <;> decide +kernel
  exact htrimmed host.arch

theorem forTarget_name_ne (hpadded : Text.trim name ≠ name)
    (htarget : target = Text.trim name ∨ Text.trim name = "") (h : forTarget host target = .ok d) :
    d.name ≠ name := by
  rintro rfl
  rcases forTarget_name h with hfixed | ⟨hlower, harch⟩
  · have htrimmed : ∀ name ∈ levels, Text.trim name = name := by decide +kernel
    rcases List.mem_cons.mp hfixed with hhost | hlevel
    · rw [hhost] at hpadded
      exact hpadded (trim_host_name host)
    · exact hpadded (htrimmed d.name hlevel)
  · rcases htarget with rfl | hblank
    · -- The name is as long as the trimmed text, which is shorter than the name.
      have hlength := congrArg String.length hlower
      rw [Text.length_lower] at hlength
      have hshorter := Text.length_trim_lt hpadded
      have hagain := Text.length_trim_le (Text.trim d.name)
      omega
    · simp only [Arch.ofName?, hblank] at harch
      revert harch
      decide +kernel

theorem forTarget_fixed (host : Host) (h : name ∈ "native" :: levels) :
    ∃ d, forTarget host name = .ok d := by
  rcases List.mem_cons.mp h with rfl | hlevel
  · have hplain : Text.lower (Text.trim "native") = "native" := by decide +kernel
    exact ⟨host.detector, by simp [forTarget, hplain]⟩
  · have listed : ∀ level ∈ levels, (levelFeatures? level).isSome = true := by decide
    obtain ⟨features, hfeatures⟩ := Option.isSome_iff_exists.mp (listed name hlevel)
    exact ⟨_, forTarget_level hfeatures⟩

end Detector

-- ---------------------------------------------------------------------------
-- Profiles
-- ---------------------------------------------------------------------------

namespace Profile

structure IsSound (p : Profile) : Prop where
  name : p.name ≠ ""
  arch : (Arch.ofName? p.arch).isSome = true
  features : ∀ f ∈ p.features, (Feature.ofName? f).isSome = true

structure Describes (p : Profile) (d : Detector) : Prop where
  arch : Arch.ofName? p.arch = some d.arch
  features : ∀ f, d.has f = true ↔ ∃ name ∈ p.features, Feature.ofName? name = some f
  name : d.name = p.name

variable {p : Profile} {d : Detector}

-- Sealed, since opening the list would otherwise evaluate the table of feature names.
seal Feature.ofName? in
theorem featureList_cons (first : String) (rest : List String) :
    featureList (first :: rest) =
      match Feature.ofName? first with
      | none => .error first
      | some f => (featureList rest).map (f :: ·) := by
  exact Eq.refl _

theorem featureList_ok {names : List String}
    (h : ∀ name ∈ names, (Feature.ofName? name).isSome = true) :
    ∃ features, featureList names = .ok features ∧
      ∀ f, f ∈ features ↔ ∃ name ∈ names, Feature.ofName? name = some f := by
  induction names with
  | nil => exact ⟨[], rfl, by simp⟩
  | cons first rest ih =>
    obtain ⟨f, hf⟩ := Option.isSome_iff_exists.mp (h first List.mem_cons_self)
    obtain ⟨features, hok, hmem⟩ := ih fun name hname => h name (List.mem_cons_of_mem _ hname)
    refine ⟨f :: features, by simp only [featureList_cons, hf, hok, Except.map], fun g => ?_⟩
    simp only [List.mem_cons, hmem, exists_eq_or_imp, hf, Option.some.injEq]
    exact or_congr eq_comm Iff.rfl

theorem detector_ok (h : p.IsSound) : ∃ d, p.detector = .ok d ∧ p.Describes d := by
  obtain ⟨arch, harch⟩ := Option.isSome_iff_exists.mp h.arch
  obtain ⟨features, hfeatures, hmem⟩ := featureList_ok h.features
  refine ⟨(Detector.ofFeatures arch features).named p.name, ?_, harch, fun f => ?_, rfl⟩
  · unfold detector
    simp only [harch, hfeatures]
  · rw [← hmem]
    exact FeatureSet.has_ofList features f

theorem detector_name (h : p.detector = .ok d) : d.name = p.name := by
  unfold detector at h
  split at h
  · cases h
  split at h
  · cases h
  · obtain rfl := Except.ok.inj h
    rfl

end Profile

-- ---------------------------------------------------------------------------
-- Configurations
-- ---------------------------------------------------------------------------

namespace Config

variable {host : Host} {c : Config} {p : Profile} {d : Detector}

theorem nameIssues_eq_nil : nameIssues place name seen = [] ↔ name ≠ "" ∧ name ∉ seen := by
  unfold nameIssues
  split
  case isTrue hempty => simp [beq_iff_eq.mp hempty]
  case isFalse hsome =>
    split
    case isTrue hseen => simpa using fun _ => hseen
    case isFalse hnew => simpa using And.intro (by simpa using hsome) (by simpa using hnew)

seal Arch.ofName? Feature.ofName? in
theorem profileIssues_cons (n : Nat) (seen : List String) (p : Profile) (rest : List Profile) :
    ∃ own, profileIssues n seen (p :: rest) = own ++ profileIssues (n + 1) (p.name :: seen) rest ∧
      (own = [] ↔ p.IsSound ∧ p.name ∉ seen) := by
  refine ⟨_, Eq.refl _, ?_⟩
  have harch (issue : String) : (if (Arch.ofName? p.arch).isSome = true then [] else [issue]) =
      [] ↔ (Arch.ofName? p.arch).isSome = true := by
    split <;> simp [*]
  simp only [List.append_eq_nil_iff, nameIssues_eq_nil, harch, List.map_eq_nil_iff,
    List.filter_eq_nil_iff, Option.isNone_iff_eq_none, ← Option.isSome_iff_ne_none]
  constructor
  · rintro ⟨⟨⟨hname, hnew⟩, harch⟩, hfeatures⟩
    exact ⟨⟨hname, harch, hfeatures⟩, hnew⟩
  · rintro ⟨⟨hname, harch, hfeatures⟩, hnew⟩
    exact ⟨⟨⟨hname, hnew⟩, harch⟩, hfeatures⟩

theorem profileIssues_eq_nil {profiles : List Profile} (h : profileIssues n seen profiles = []) :
    (∀ p ∈ profiles, p.IsSound) ∧ (profiles.map (·.name)).Nodup ∧
      ∀ p ∈ profiles, p.name ∉ seen := by
  induction profiles generalizing n seen with
  | nil => simp
  | cons first rest ih =>
    obtain ⟨own, hcons, hown⟩ := profileIssues_cons n seen first rest
    obtain ⟨hfirst, hrest⟩ := List.append_eq_nil_iff.mp (hcons.symm.trans h)
    obtain ⟨hsound, hnew⟩ := hown.mp hfirst
    obtain ⟨hsounds, hnodup, hothers⟩ := ih hrest
    have hunseen : ∀ p ∈ rest, p.name ≠ first.name ∧ p.name ∉ seen := by simpa using hothers
    simp only [List.forall_mem_cons, List.map_cons, List.nodup_cons, List.mem_map, not_exists,
      not_and]
    exact ⟨⟨hsound, hsounds⟩, ⟨fun p hp => (hunseen p hp).1, hnodup⟩, hnew,
      fun p hp => (hunseen p hp).2⟩

theorem validate_ok (h : c.validate = .ok ()) :
    (∀ p ∈ c.profiles, p.IsSound) ∧ (c.profiles.map (·.name)).Nodup := by
  unfold validate at h
  split at h
  case h_2 => cases h
  case h_1 hissues =>
    obtain ⟨hsound, hnodup, -⟩ := profileIssues_eq_nil (List.append_eq_nil_iff.mp hissues).2
    exact ⟨hsound, hnodup⟩

theorem name_of_profile? (h : c.profile? name = some p) : p.name = name := by
  simpa using List.find?_some h

theorem profile?_of_mem (hnodup : (c.profiles.map (·.name)).Nodup) (hp : p ∈ c.profiles) :
    c.profile? p.name = some p := by
  cases hfound : c.profile? p.name with
  | none => simpa using List.find?_eq_none.mp hfound p hp
  | some q =>
    rw [List.inj_on_of_nodup_map hnodup (List.mem_of_find?_eq_some hfound) hp
      (name_of_profile? hfound)]

theorem targetNamed_ok : targetNamed host (some c) name = .ok d ↔
    (∃ p, c.profile? name = some p ∧ p.detector = .ok d) ∨
      c.profile? name = none ∧ Detector.forTarget host name = .ok d := by
  unfold targetNamed
  simp only [Option.bind_some]
  cases c.profile? name with
  | some p => cases h : p.detector <;> simp [h]
  | none => cases Detector.forTarget host name <;> simp

theorem targetNamed_profile (h : c.validate = .ok ()) (hp : p ∈ c.profiles) :
    ∃ d, targetNamed host (some c) p.name = .ok d ∧ p.Describes d := by
  obtain ⟨hsound, hnodup⟩ := validate_ok h
  obtain ⟨d, hd, hdescribes⟩ := Profile.detector_ok (hsound p hp)
  exact ⟨d, targetNamed_ok.mpr (.inl ⟨p, profile?_of_mem hnodup hp, hd⟩), hdescribes⟩

theorem targetNamed_fixed (h : c.validate = .ok ()) (hname : name ∈ "native" :: Detector.levels) :
    ∃ d, targetNamed host (some c) name = .ok d := by
  cases hfound : c.profile? name with
  | some p =>
    obtain ⟨d, hd, -⟩ := targetNamed_profile h (List.mem_of_find?_eq_some hfound)
    exact ⟨d, name_of_profile? hfound ▸ hd⟩
  | none =>
    obtain ⟨d, hd⟩ := Detector.forTarget_fixed host hname
    exact ⟨d, targetNamed_ok.mpr (.inr ⟨hfound, hd⟩)⟩

/-- A name with blanks around it never gets its own profile, unless it is the target that blank
names stand for. -/
theorem name_ne_of_padded (hpadded : Text.trim name ≠ name)
    (hother : ¬(Text.trim name = "" ∧ c.target = name))
    (h : resolveTarget host (some c) name = .ok d) : d.name ≠ name := by
  simp only [resolveTarget, Option.map_some, Option.getD_some, beq_iff_eq, targetNamed_ok] at h
  generalize htarget : (if Text.trim name = "" then c.target else Text.trim name) = target at h
  obtain ⟨hne, hfrom⟩ : target ≠ name ∧ (target = Text.trim name ∨ Text.trim name = "") := by
    split at htarget
    case isTrue hblank =>
      exact ⟨fun hsame => hother ⟨hblank, htarget.trans hsame⟩, .inr hblank⟩
    case isFalse => exact ⟨fun hsame => hpadded (htarget.trans hsame), .inl htarget.symm⟩
  rcases h with ⟨p, hfound, hd⟩ | ⟨-, hd⟩
  · rw [Profile.detector_name hd, name_of_profile? hfound]
    exact hne
  · exact Detector.forTarget_name_ne hpadded hfrom hd

theorem resolveTarget_profile (h : c.validate = .ok ()) (hp : p ∈ c.profiles)
    (hname : Text.trim p.name = p.name ∨ Text.trim p.name = "" ∧ c.target = p.name) :
    ∃ d, resolveTarget host (some c) p.name = .ok d ∧ p.Describes d := by
  have hresolve : resolveTarget host (some c) p.name = targetNamed host (some c) p.name := by
    rcases hname with htrimmed | ⟨hblank, htarget⟩
    · simp [resolveTarget, htrimmed, ((validate_ok h).1 p hp).name]
    · simp [resolveTarget, hblank, htarget]
  rw [hresolve]
  exact targetNamed_profile h hp

theorem known_selected {c : Config} (host : Host) (h : c.validate = .ok ()) :
    (∀ name ∈ knownTargets (some c), Text.trim name = name →
      ∃ d, resolveTarget host (some c) name = .ok d) ∧
    ∀ p ∈ c.profiles, (∃ d, resolveTarget host (some c) p.name = .ok d ∧ p.Describes d) ↔
      Text.trim p.name = p.name ∨ Text.trim p.name = "" ∧ c.target = p.name := by
  refine ⟨fun name hname htrimmed => ?_, fun p hp => ⟨?_, resolveTarget_profile h hp⟩⟩
  · rcases List.mem_append.mp hname with hfixed | hlisted
    · have hsome : name ≠ "" := by
        rintro rfl
        revert hfixed
        decide
      simpa [resolveTarget, htrimmed, hsome] using targetNamed_fixed h hfixed
    · obtain ⟨p, hp, rfl⟩ := List.mem_map.mp hlisted
      obtain ⟨d, hd, -⟩ := resolveTarget_profile h hp (.inl htrimmed)
      exact ⟨d, hd⟩
  · rintro ⟨d, hd, hdescribes⟩
    by_contra hneither
    obtain ⟨hpadded, hother⟩ := not_or.mp hneither
    exact name_ne_of_padded hpadded hother hd hdescribes.name

/-- Two processors under names that would select others without the profiles. -/
def shadowing : Config where
  profiles := [⟨"x86_64-v4", "i686", ["SSE"]⟩, ⟨"native", "arm64", []⟩]

theorem known_selected_shadowing :
    (∃ d, resolveTarget .arm64 (some shadowing) "x86_64-v3" = .ok d) ∧
    (∃ d, resolveTarget .arm64 (some shadowing) "x86_64-v4" = .ok d ∧
      Profile.Describes ⟨"x86_64-v4", "i686", ["SSE"]⟩ d) ∧
    ∃ d, resolveTarget .arm64 (some shadowing) "native" = .ok d ∧
      Profile.Describes ⟨"native", "arm64", []⟩ d := by
  have hvalid : shadowing.validate = .ok () := by decide +kernel
  obtain ⟨hknown, hprofiles⟩ := known_selected .arm64 hvalid
  exact ⟨hknown "x86_64-v3" (by decide) (by decide +kernel),
    (hprofiles _ List.mem_cons_self).mpr (.inl (by decide +kernel)),
    (hprofiles _ (List.mem_cons_of_mem _ List.mem_cons_self)).mpr (.inl (by decide +kernel))⟩

theorem padded_unselectable :
    let c : Config := { profiles := [⟨" pentium3", "i686", ["sse"]⟩] }
    c.validate = .ok () ∧ " pentium3" ∈ knownTargets (some c) ∧
      (resolveTarget .arm64 (some c) " pentium3").isOk = false := by
  decide +kernel

end Config

end Lanewise
