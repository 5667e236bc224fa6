import Lanewise.Target.Detector

/-!
# Advice on vector kinds

Notes on how to use a kind well on a target. They never decide whether a program is accepted.
-/

namespace Lanewise.Detector

def alignmentNote (kind : VectorKind) : String :=
  if kind.isMask then
    "mask kinds map to AVX-512 predicate registers; prefer masked operations over blends"
  else if 512 ≤ kind.bitWidth then "align data to 64-byte boundaries for 512-bit vectors"
  else if 256 ≤ kind.bitWidth then "align data to 32-byte boundaries for 256-bit vectors"
  else "align data to 16-byte boundaries for 128-bit vectors"

def emulationNotes (d : Detector) (kind : VectorKind) : List String :=
  if d.isSupported kind then []
  else [kind.text ++ " is not native on " ++ d.name ++ " (" ++ d.explain kind ++
    "); operations will be split or emulated"]

def noteIf (condition : Bool) (note : String) : List String := if condition then [note] else []

def x86Notes (d : Detector) (kind : VectorKind) : List String :=
  noteIf (kind.isFloat && d.has .fma)
    "use fused multiply-add (FMA) for multiply-accumulate patterns" ++
  noteIf (kind.bitWidth == 512 && !kind.isMask && d.has .avx512f)
    "use AVX-512 mask registers for conditional lane updates" ++
  noteIf (kind.bitWidth == 256 && d.has .avx512vl)
    "AVX-512VL allows masked operations on 256-bit vectors" ++
  noteIf (kind.bitWidth == 256 && d.has .avx && !d.has .avx512f)
    "avoid mixing legacy SSE and VEX-encoded instructions to prevent transition penalties"

def armNotes (d : Detector) (kind : VectorKind) : List String :=
  noteIf (128 < kind.bitWidth)
    "NEON registers are 128-bit; wider vectors are split across registers" ++
  noteIf (d.has .sve) "SVE is available; consider vector-length-agnostic loops"

def ppcNotes (d : Detector) : List String :=
  noteIf (d.has .altivec && !d.has .vsx)
    "AltiVec loads ignore the low address bits; keep vector data 16-byte aligned"

def familyNotes (d : Detector) (kind : VectorKind) : List String :=
  if d.arch.isX86 then d.x86Notes kind
  else if d.arch.isArm then d.armNotes kind
  else if d.arch.isPpc then d.ppcNotes
  else []

def recommendations (d : Detector) (kind : VectorKind) : List String :=
  if kind.isValid then alignmentNote kind :: d.emulationNotes kind ++ d.familyNotes kind else []

end Lanewise.Detector
