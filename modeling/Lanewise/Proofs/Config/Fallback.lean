import Lanewise.Proofs.Config.Selection

/-!
# The target that blank names stand for

`fallback_agrees`: when a blank name selects what the target of the configuration selects by its
name. A name that is given is trimmed, and the target that a blank name stands for is taken as it
was written. Blanks make no difference to levels and architectures (`forTarget_trim`), but profiles
are looked up by the exact text, so a padded target can miss its profile
(`padded_target_misses_profile`).
-/

namespace Lanewise

namespace Detector

/-- What a selection tells about the target: architecture, features and name. Nothing if it
fails. -/
def selected (x : Except ε Detector) : Option (Arch × FeatureSet × String) :=
  x.toOption.map fun d => (d.arch, d.features, d.name)

variable {x : Except ε Detector} {y : Except ε' Detector}

@[simp] theorem selected_ok (d : Detector) :
    selected (.ok d : Except ε Detector) = some (d.arch, d.features, d.name) := rfl

@[simp] theorem selected_error (e : ε) : selected (.error e : Except ε Detector) = none := rfl

theorem selected_congr (h : ∀ d, x = .ok d ↔ y = .ok d) : selected x = selected y := by
  cases x with
  | ok d => rw [(h d).mp rfl, selected_ok, selected_ok]
  | error _ =>
    cases y with
    | ok e => cases (h e).mpr rfl
    | error _ => rfl

theorem selected_ne (hx : x = .ok d) (h : ∀ e, y = .ok e → e.name ≠ d.name) :
    selected x ≠ selected y := by
  subst hx
  cases y with
  | error _ => simp
  | ok e =>
    intro hsame
    have hname : d.name = e.name := (Prod.ext_iff.mp (Prod.ext_iff.mp (Option.some.inj hsame)).2).2
    exact h e rfl hname.symm

theorem forTarget_trim {host : Host} (s : String) :
    forTarget host (Text.trim s) = .ok d ↔ forTarget host s = .ok d :=
  forTarget_congr (by rw [Text.trim_trim])

end Detector

namespace Config

open Detector (selected selected_congr selected_ne forTarget forTarget_trim)

variable {host : Host} {c : Config} {p : Profile} {name : String}

theorem selected_profile (h : c.profile? name = some p) :
    selected (targetNamed host (some c) name) = selected p.detector :=
  selected_congr fun d => by simp [targetNamed_ok, h]

theorem selected_forTarget (h : c.profile? name = none) :
    selected (targetNamed host (some c) name) = selected (forTarget host name) :=
  selected_congr fun d => by simp [targetNamed_ok, h]

/-- With and without its blanks a padded name selects the same only if neither selects a profile,
or if the profile is what the name stands for without it. -/
theorem selected_trim (h : c.validate = .ok ()) (hpadded : Text.trim name ≠ name) :
    selected (targetNamed host (some c) name) =
        selected (targetNamed host (some c) (Text.trim name)) ↔
      c.profile? name = none ∧ ∀ p, c.profile? (Text.trim name) = some p →
        selected (forTarget host name) = selected p.detector := by
  cases hfound : c.profile? name with
  | some p =>
    -- The target has the padded name of its profile, which no trimmed name selects.
    have hsound := (validate_ok h).1 p (List.mem_of_find?_eq_some hfound)
    obtain ⟨d, hd, -⟩ := Profile.detector_ok hsound
    have hname : d.name = name := (Profile.detector_name hd).trans (name_of_profile? hfound)
    have hd : targetNamed host (some c) name = .ok d := targetNamed_ok.mpr (.inl ⟨p, hfound, hd⟩)
    simp only [reduceCtorEq, false_and, iff_false]
    refine selected_ne hd fun e he => ?_
    rw [hname]
    rcases targetNamed_ok.mp he with ⟨q, hq, hdetector⟩ | ⟨-, htarget⟩
    · rw [Profile.detector_name hdetector, name_of_profile? hq]
      exact hpadded
    · exact Detector.forTarget_name_ne hpadded (.inl rfl) htarget
  | none =>
    rw [selected_forTarget hfound]
    cases hother : c.profile? (Text.trim name) with
    | none =>
      rw [selected_forTarget hother, selected_congr fun d => (forTarget_trim name).symm]
      simp
    | some q =>
      rw [selected_profile hother]
      simp

theorem fallback_agrees {host : Host} {c : Config} {blank : String} (h : c.validate = .ok ())
    (hblank : Text.trim blank = "") :
    selected (resolveTarget host (some c) blank) = selected (resolveTarget host (some c) c.target) ↔
      Text.trim c.target = c.target ∨ Text.trim c.target = "" ∨
        c.profile? c.target = none ∧ ∀ p, c.profile? (Text.trim c.target) = some p →
          selected (forTarget host c.target) = selected p.detector := by
  have hfallback : resolveTarget host (some c) blank = targetNamed host (some c) c.target := by
    simp [resolveTarget, hblank]
  rw [hfallback]
  by_cases hnone : Text.trim c.target = ""
  · simp [resolveTarget, hnone]
  have hnamed : resolveTarget host (some c) c.target =
      targetNamed host (some c) (Text.trim c.target) := by
    simp [resolveTarget, hnone]
  rw [hnamed]
  by_cases htrimmed : Text.trim c.target = c.target
  · simp [htrimmed]
  · simp [selected_trim h htrimmed, hnone, htrimmed]

/-- A padded target, and a profile that gives its architecture no more than it has in any case. -/
def plainRiscV : Config where
  target := " riscv64"
  profiles := [⟨"riscv64", "riscv64", []⟩]

theorem fallback_agrees_plainRiscV :
    selected (resolveTarget .arm64 (some plainRiscV) "\t ") =
      selected (resolveTarget .arm64 (some plainRiscV) " riscv64") := by
  refine (fallback_agrees (c := plainRiscV) (by decide +kernel) (by decide +kernel)).mpr
    (.inr (.inr ⟨by decide +kernel, fun p hp => ?_⟩))
  obtain rfl : (⟨"riscv64", "riscv64", []⟩ : Profile) = p :=
    Option.some.inj (.trans (by decide +kernel) hp)
  decide +kernel

theorem padded_target_misses_profile :
    let c : Config := { target := " skylake", profiles := [⟨"skylake", "x86_64", []⟩] }
    c.validate = .ok () ∧ (resolveTarget .arm64 (some c) "").isOk = false ∧
      resolveTarget .arm64 (some c) c.target =
        .ok ((Detector.ofFeatures .x86_64 []).named "skylake") := by
  decide +kernel

end Config

end Lanewise
