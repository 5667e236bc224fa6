import Lanewise.Text.Blank
import Lanewise.Text.Lower

/-!
# Processor architectures

The families of processor a program can be checked for, and the names that select them.
-/

namespace Lanewise

inductive Arch
  | unknown
  | x86_64 | x86
  | aarch64 | arm
  | ppc64le | ppc64
  | riscv64 | wasm32
  deriving DecidableEq, Repr, Inhabited

namespace Arch

def ofCode (code : Int) : Arch :=
  if 0 ≤ code then
    [unknown, x86_64, x86, aarch64, arm, ppc64le, ppc64, riscv64, wasm32].getD code.toNat .unknown
  else .unknown

def text : Arch → String
  | .unknown => "unknown"
  | .x86_64 => "x86_64"
  | .x86 => "i686"
  | .aarch64 => "aarch64"
  | .arm => "arm"
  | .ppc64le => "powerpc64le"
  | .ppc64 => "powerpc64"
  | .riscv64 => "riscv64"
  | .wasm32 => "wasm32"

def isX86 : Arch → Bool
  | .x86_64 | .x86 => true
  | _ => false

def isArm : Arch → Bool
  | .aarch64 | .arm => true
  | _ => false

def isPpc : Arch → Bool
  | .ppc64le | .ppc64 => true
  | _ => false

def replaceFirst (pattern replacement : List Char) : List Char → List Char
  | [] => if pattern.isEmpty then replacement else []
  | c :: cs =>
    if pattern.isPrefixOf (c :: cs) then replacement ++ (c :: cs).drop pattern.length
    else c :: replaceFirst pattern replacement cs

/-- The part of a target triple before its first dash, unless the dash comes first. -/
def beforeDash (cs : List Char) : List Char :=
  match cs with
  | '-' :: _ => cs
  | _ => cs.takeWhile (· != '-')

def ofBareName? (name : String) : Option Arch :=
  match name with
  | "x86_64" | "amd64" | "x64" => some .x86_64
  | "i386" | "i486" | "i586" | "i686" | "x86" | "386" => some .x86
  | "aarch64" | "arm64" => some .aarch64
  | "ppc64le" | "powerpc64le" => some .ppc64le
  | "ppc64" | "powerpc64" => some .ppc64
  | "riscv64" | "riscv64gc" => some .riscv64
  | "wasm32" | "wasm" => some .wasm32
  | _ =>
    if "arm".toList.isPrefixOf name.toList || "thumb".toList.isPrefixOf name.toList then some .arm
    else none

/-- Accepts short names, long names and whole target triples, in any case. -/
def ofName? (name : String) : Option Arch :=
  let spelled := replaceFirst "x86-64".toList "x86_64".toList (Text.lower (Text.trim name)).toList
  ofBareName? (String.ofList (beforeDash spelled))

end Arch

end Lanewise
