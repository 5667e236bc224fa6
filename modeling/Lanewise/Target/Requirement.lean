import Lanewise.Target.Arch
import Lanewise.Target.Feature
import Lanewise.Ty.VectorKind

/-!
# What vector kinds require

Each kind has alternatives: a family of processors and the features that all have to be there. Any
alternative that applies to a processor and is met makes the kind run on it.
-/

namespace Lanewise

structure Requirement where
  arches : List Arch
  features : List Feature
  deriving DecidableEq, Repr

namespace Requirement

def appliesTo (r : Requirement) (arch : Arch) : Bool := r.arches.contains arch

def onX86 (features : List Feature) : Requirement := ⟨[.x86_64, .x86], features⟩
def onArm (features : List Feature) : Requirement := ⟨[.aarch64, .arm], features⟩
def onAArch64 (features : List Feature) : Requirement := ⟨[.aarch64], features⟩
def onPpc (features : List Feature) : Requirement := ⟨[.ppc64le, .ppc64], features⟩
def onWasm (features : List Feature) : Requirement := ⟨[.wasm32], features⟩

/-- Registers of 128 bits or their lower half, on every family. -/
def narrow (x86 : Feature) : List Requirement :=
  [onX86 [x86], onArm [.neon], onPpc [.altivec], onWasm [.simd128]]

/-- Lanes of 64 bits in registers of 128, which the older families lack. -/
def wideLanes : List Requirement :=
  [onX86 [.sse2], onAArch64 [.neon], onPpc [.vsx], onWasm [.simd128]]

end Requirement

open Requirement in
/-- The alternatives of a kind, in the order in which they are reported. -/
def VectorKind.requirements : VectorKind → List Requirement
  | .invalid _ => []
  | .f32x2 | .f32x4 => narrow .sse
  | .i32x2 | .i16x4 | .i8x8 | .i32x4 | .i16x8 | .i8x16 | .u32x4 | .u16x8 | .u8x16 => narrow .sse2
  | .f64x2 | .i64x2 => wideLanes
  | .f32x8 | .f64x4 => [onX86 [.avx]]
  | .i8x32 | .i16x16 | .i32x8 | .i64x4 | .u8x32 | .u16x16 | .u32x8 => [onX86 [.avx2]]
  | .f32x16 | .f64x8 | .i32x16 | .i64x8 | .mask8 | .mask16 => [onX86 [.avx512f]]
  | .i16x32 | .i8x64 | .mask32 | .mask64 => [onX86 [.avx512f, .avx512bw]]

end Lanewise
