import Lanewise.Proofs.Typing.Printed
import Lanewise.Target.Resolve

/-!
# Names of targets

`forTarget_name_self`: the name under which a target was selected selects it again. A name counts
in lower case and without the blanks around it (`forTarget_congr`), and the name that a target keeps
is either a level or already in this form.
-/

namespace Lanewise

-- ---------------------------------------------------------------------------
-- Names in lower case
-- ---------------------------------------------------------------------------

namespace Text

theorem trimBlanks_sublist (cs : List Char) : (trimBlanks cs).Sublist cs := by
  have hend : ((cs.dropWhile isBlank).reverse.dropWhile isBlank).Sublist
      (cs.dropWhile isBlank).reverse := List.dropWhile_sublist isBlank
  have hinner : (trimBlanks cs).Sublist (cs.dropWhile isBlank) := by
    simpa [trimBlanks] using hend.reverse
  exact hinner.trans (List.dropWhile_sublist isBlank)

theorem trim_trim (s : String) : trim (trim s) = trim s := by
  simp [trim, trimBlanks_of_isTrimmed (isTrimmed_trimBlanks s.toList)]

theorem lowerChar_capital {c : Char} (hfirst : 0x41 ≤ c.toNat) (hlast : c.toNat ≤ 0x5a) :
    (lowerChar c).toNat = c.toNat + 32 := by
  have alphabet : ∀ n < 26, (lowerChar (Char.ofNat (0x41 + n))).toNat = 0x41 + n + 32 := by
    decide +kernel
  obtain ⟨n, hn⟩ := Nat.exists_eq_add_of_le hfirst
  have hletter := alphabet n (by omega)
  rwa [← hn, Char.ofNat_toNat] at hletter

/-- In ASCII a small form has no small form of its own, and is no blank. -/
theorem lowerChar_ascii {c : Char} (hascii : c.toNat < 0x80) :
    lowerChar (lowerChar c) = lowerChar c ∧
      (isBlank c = false → isBlank (lowerChar c) = false) := by
  by_cases hcapital : 0x41 ≤ c.toNat ∧ c.toNat ≤ 0x5a
  · have hsmall := lowerChar_capital hcapital.1 hcapital.2
    refine ⟨lowerChar_eq_self (by omega) (by omega), fun _ => ?_⟩
    simp [isBlank, hsmall]
    omega
  · have hself : lowerChar c = c := lowerChar_eq_self hascii (by omega)
    simp [hself]

theorem lower_trim_self {s : String} (hascii : ∀ c ∈ s.toList, c.toNat < 0x80) :
    lower (trim (lower (trim s))) = lower (trim s) := by
  have hletters : ∀ c ∈ trimBlanks s.toList, c.toNat < 0x80 := fun c hc =>
    hascii c ((trimBlanks_sublist s.toList).subset hc)
  have htrimmed : IsTrimmed ((trimBlanks s.toList).map lowerChar) := by
    obtain ⟨hfirst, hlast⟩ := isTrimmed_trimBlanks s.toList
    constructor
    · rw [List.head?_map]
      rintro _ hmapped
      obtain ⟨c, hc, rfl⟩ := Option.map_eq_some_iff.mp hmapped
      exact (lowerChar_ascii (hletters c (List.mem_of_mem_head? hc))).2 (hfirst c hc)
    · rw [List.getLast?_map]
      rintro _ hmapped
      obtain ⟨c, hc, rfl⟩ := Option.map_eq_some_iff.mp hmapped
      exact (lowerChar_ascii (hletters c (List.mem_of_mem_getLast? hc))).2 (hlast c hc)
  have htwice : ((trimBlanks s.toList).map lowerChar).map lowerChar =
      (trimBlanks s.toList).map lowerChar := by
    rw [List.map_map]
    exact List.map_congr_left fun c hc => (lowerChar_ascii (hletters c hc)).1
  simp [lower, trim, trimBlanks_of_isTrimmed htrimmed, htwice]

end Text

-- ---------------------------------------------------------------------------
-- Targets
-- ---------------------------------------------------------------------------

def Host.arm64 : Host := ⟨"arm64", (· == .asimd)⟩

namespace Detector

variable {host : Host} {d : Detector} {s s' level : String} {features : List Feature}

theorem forTarget_congr (h : Text.lower (Text.trim s) = Text.lower (Text.trim s')) :
    forTarget host s = .ok d ↔ forTarget host s' = .ok d := by
  unfold forTarget
  rw [h]
  dsimp only
  split
  · rfl
  split
  · rfl
  split <;> simp

theorem mem_levels (h : levelFeatures? level = some features) : level ∈ levels := by
  unfold levelFeatures? at h
  split at h <;> simp_all [levels]

theorem forTarget_level (h : levelFeatures? level = some features) :
    forTarget host level = .ok ((ofFeatures .x86_64 features).named level) := by
  have plain : ∀ level ∈ levels, Text.lower (Text.trim level) = level ∧
      levelName level.toList = level ∧ level ≠ "" ∧ level ≠ "native" := by
    decide +kernel
  obtain ⟨hplain, hlevel, hsome, hnative⟩ := plain level (mem_levels h)
  simp [forTarget, hplain, hlevel, hsome, hnative, h]

/-- A target that a name selects is the host, a level, or an architecture under the name as it was
written. -/
theorem forTarget_cases (h : forTarget host s = .ok d) :
    d = host.detector ∨
    (∃ level features, levelFeatures? level = some features ∧
      d = (ofFeatures .x86_64 features).named level) ∨
    d.name = Text.lower (Text.trim s) ∧ (Arch.ofName? d.name).isSome = true := by
  unfold forTarget at h
  dsimp only at h
  split at h
  · exact .inl (Except.ok.inj h).symm
  split at h
  case h_1 features hlevel => exact .inr (.inl ⟨_, features, hlevel, (Except.ok.inj h).symm⟩)
  split at h
  · cases h
  rename_i arch harch
  split at h
  · exact .inl (Except.ok.inj h).symm
  · obtain rfl := Except.ok.inj h
    exact .inr (.inr ⟨rfl, Option.isSome_iff_exists.mpr ⟨arch, harch⟩⟩)

theorem forTarget_name_self {host : Host} {s : String} {d : Detector}
    (hascii : ∀ c ∈ s.toList, c.toNat < 0x80) (h : forTarget host s = .ok d)
    (hother : d ≠ host.detector) : forTarget host d.name = .ok d := by
  rcases forTarget_cases h with hhost | ⟨level, features, hlevel, rfl⟩ | ⟨hname, -⟩
  · exact absurd hhost hother
  · exact forTarget_level hlevel
  · rw [hname, forTarget_congr (Text.lower_trim_self hascii)]
    exact h

/-- A level in another spelling, and triples with blanks around them: of a family that is not the
host's, and of another processor of the host's family. -/
theorem forTarget_name_self_spellings :
    (∃ d, forTarget .arm64 " AMD64-V3\t" = .ok d ∧ d.name = "x86_64-v3" ∧
      forTarget .arm64 d.name = .ok d) ∧
    (∃ d, forTarget .arm64 "X86-64-Unknown-Linux " = .ok d ∧ d.name = "x86-64-unknown-linux" ∧
      d.arch = .x86_64 ∧ forTarget .arm64 d.name = .ok d) ∧
    ∃ d, forTarget .arm64 " Armv7-None" = .ok d ∧ d.name = "armv7-none" ∧
      forTarget .arm64 d.name = .ok d := by
  have hlevel : forTarget .arm64 " AMD64-V3\t" = .ok ((ofFeatures .x86_64 [.sse, .sse2, .sse3,
      .ssse3, .sse41, .sse42, .avx, .avx2, .fma, .f16c]).named "x86_64-v3") := by decide +kernel
  have htriple : forTarget .arm64 "X86-64-Unknown-Linux " =
      .ok ((baseline .x86_64).named "x86-64-unknown-linux") := by decide +kernel
  have hsibling : forTarget .arm64 " Armv7-None" =
      .ok ((baseline .arm).named "armv7-none") := by decide +kernel
  exact ⟨⟨_, hlevel, rfl, forTarget_name_self (by simp) hlevel (by decide +kernel)⟩,
    ⟨_, htriple, rfl, rfl, forTarget_name_self (by simp) htriple (by decide +kernel)⟩,
    ⟨_, hsibling, rfl, forTarget_name_self (by simp) hsibling (by decide +kernel)⟩⟩

end Detector

end Lanewise
