import Lanewise.Target.Host
import Lanewise.Text.Quoted

/-!
# Target names

A target is named by an architecture, by an x86-64 level or as the host. Another architecture than
the host's is a cross target and gets the features that every processor of the family has.
-/

namespace Lanewise.Detector

/-- The x86-64 levels, each of which includes the one before. -/
def levels : List String := ["x86_64-v1", "x86_64-v2", "x86_64-v3", "x86_64-v4"]

def levelFeatures? : String → Option (List Feature)
  | "x86_64-v1" => some [.sse, .sse2]
  | "x86_64-v2" => some [.sse, .sse2, .sse3, .ssse3, .sse41, .sse42]
  | "x86_64-v3" => some [.sse, .sse2, .sse3, .ssse3, .sse41, .sse42, .avx, .avx2, .fma, .f16c]
  | "x86_64-v4" => some [.sse, .sse2, .sse3, .ssse3, .sse41, .sse42, .avx, .avx2, .fma, .f16c,
      .avx512f, .avx512bw, .avx512dq, .avx512vl, .avx512cd]
  | _ => none

def baseline (arch : Arch) : Detector :=
  match arch with
  | .x86_64 => ofFeatures arch [.sse, .sse2]
  | .aarch64 => ofFeatures arch [.neon]
  | .ppc64le => ofFeatures arch [.altivec, .vsx]
  | _ => ofFeatures arch []

/-- The level a lower-case target name spells, if it spells one. -/
def levelName (name : List Char) : String :=
  String.ofList (Arch.replaceFirst "amd64".toList "x86_64".toList
    (Arch.replaceFirst "x86-64".toList "x86_64".toList name))

def forTarget (host : Host) (name : String) : Except String Detector :=
  let plain := Text.lower (Text.trim name)
  if plain == "" || plain == "native" then .ok host.detector
  else
    let level := levelName plain.toList
    match levelFeatures? level with
    | some features => .ok ((ofFeatures .x86_64 features).named level)
    | none =>
      match Arch.ofName? plain with
      | none => .error ("unknown target architecture " ++ Text.quoted name)
      | some arch =>
        if arch == host.arch then .ok host.detector else .ok ((baseline arch).named plain)

end Lanewise.Detector
