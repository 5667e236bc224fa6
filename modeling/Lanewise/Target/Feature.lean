import Lanewise.Text.Blank
import Lanewise.Text.Lower

/-!
# Instruction-set features

The vector extensions a processor can have, and sets of them. A set is kept as a list in the order
of the features without repetition, which is the order in which sets print.
-/

namespace Lanewise

inductive Feature
  | sse | sse2 | sse3 | ssse3 | sse41 | sse42
  | avx | avx2 | fma | f16c
  | avx512f | avx512bw | avx512dq | avx512vl | avx512cd
  | neon | sve | altivec | vsx | simd128
  | other (code : Int)
  deriving DecidableEq, Repr, Inhabited

namespace Feature

def all : List Feature := [
  sse, sse2, sse3, ssse3, sse41, sse42, avx, avx2, fma, f16c,
  avx512f, avx512bw, avx512dq, avx512vl, avx512cd, neon, sve, altivec, vsx, simd128]

def code : Feature → Int
  | .sse => 0
  | .sse2 => 1
  | .sse3 => 2
  | .ssse3 => 3
  | .sse41 => 4
  | .sse42 => 5
  | .avx => 6
  | .avx2 => 7
  | .fma => 8
  | .f16c => 9
  | .avx512f => 10
  | .avx512bw => 11
  | .avx512dq => 12
  | .avx512vl => 13
  | .avx512cd => 14
  | .neon => 15
  | .sve => 16
  | .altivec => 17
  | .vsx => 18
  | .simd128 => 19
  | .other code => code

def ofCode (code : Int) : Feature :=
  if 0 ≤ code then all.getD code.toNat (.other code) else .other code

def text : Feature → String
  | .sse => "sse"
  | .sse2 => "sse2"
  | .sse3 => "sse3"
  | .ssse3 => "ssse3"
  | .sse41 => "sse4.1"
  | .sse42 => "sse4.2"
  | .avx => "avx"
  | .avx2 => "avx2"
  | .fma => "fma"
  | .f16c => "f16c"
  | .avx512f => "avx512f"
  | .avx512bw => "avx512bw"
  | .avx512dq => "avx512dq"
  | .avx512vl => "avx512vl"
  | .avx512cd => "avx512cd"
  | .neon => "neon"
  | .sve => "sve"
  | .altivec => "altivec"
  | .vsx => "vsx"
  | .simd128 => "simd128"
  | .other _ => "unknown"

/-- Case, blanks around the name, dots, dashes and underscores do not matter in a name. -/
def plainName (name : String) : String :=
  String.ofList ((Text.lower (Text.trim name)).toList.filter fun c =>
    !(c == '.' || c == '-' || c == '_'))

def ofName? (name : String) : Option Feature :=
  let plain := plainName name
  match all.find? fun f => plainName f.text == plain with
  | some f => some f
  | none =>
    if plain == "asimd" then some .neon
    else if plain == "vmx" then some .altivec
    else none

def list (features : List Feature) : String := " ".intercalate (features.map text)

end Feature

/-- A set of features: ordered by `Feature.code`, each feature once. -/
structure FeatureSet where
  features : List Feature
  deriving DecidableEq, Repr, Inhabited

namespace FeatureSet

def insertInto (f : Feature) : List Feature → List Feature
  | [] => [f]
  | g :: rest =>
    if f.code < g.code then f :: g :: rest
    else if f == g then g :: rest
    else g :: insertInto f rest

def empty : FeatureSet := ⟨[]⟩

def insert (s : FeatureSet) (f : Feature) : FeatureSet := ⟨insertInto f s.features⟩

def adjoin (s : FeatureSet) (features : List Feature) : FeatureSet := features.foldl insert s

def ofList (features : List Feature) : FeatureSet := empty.adjoin features

def has (s : FeatureSet) (f : Feature) : Bool := s.features.contains f

def hasAll (s : FeatureSet) (features : List Feature) : Bool := features.all s.has

def size (s : FeatureSet) : Nat := s.features.length

def text (s : FeatureSet) : String := Feature.list s.features

end FeatureSet

end Lanewise
