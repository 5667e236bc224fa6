import Lanewise.Target.Detector

/-!
# The host

The processor that the checker itself runs on. The name of its platform and its answers to questions
about extensions come from outside; the rest follows from them.
-/

namespace Lanewise

inductive CpuFlag
  | sse2 | sse3 | ssse3 | sse41 | sse42 | avx | avx2 | fma
  | avx512f | avx512bw | avx512dq | avx512vl | avx512cd
  | asimd | sve
  | neon
  | power8
  deriving DecidableEq, Repr

structure Host where
  platform : String
  has : CpuFlag → Bool

def Arch.ofPlatform : String → Arch
  | "amd64" => .x86_64
  | "386" => .x86
  | "arm64" => .aarch64
  | "arm" => .arm
  | "ppc64le" => .ppc64le
  | "ppc64" => .ppc64
  | "riscv64" => .riscv64
  | "wasm" => .wasm32
  | _ => .unknown

namespace Host

def arch (h : Host) : Arch := .ofPlatform h.platform

/-- The features that are there without a question. -/
def granted : Arch → List Feature
  | .ppc64le => [.altivec, .vsx]
  | .ppc64 => [.altivec]
  | _ => []

/-- The features that are there if the processor says so. -/
def asked : Arch → List (CpuFlag × Feature)
  | .x86_64 | .x86 => [
    -- No processor has the second extension without the first, and only the second is asked about.
    (.sse2, .sse), (.sse2, .sse2), (.sse3, .sse3), (.ssse3, .ssse3), (.sse41, .sse41),
    (.sse42, .sse42), (.avx, .avx), (.avx2, .avx2), (.fma, .fma), (.avx512f, .avx512f),
    (.avx512bw, .avx512bw), (.avx512dq, .avx512dq), (.avx512vl, .avx512vl), (.avx512cd, .avx512cd)]
  | .aarch64 => [(.asimd, .neon), (.sve, .sve)]
  | .arm => [(.neon, .neon)]
  | .ppc64 => [(.power8, .vsx)]
  | _ => []

def features (h : Host) : List Feature :=
  granted h.arch ++ ((asked h.arch).filter (h.has ·.1)).map (·.2)

def detector (h : Host) : Detector :=
  (Detector.ofFeatures h.arch h.features).named ("native(" ++ h.arch.text ++ ")")

end Host

end Lanewise
