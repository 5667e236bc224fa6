import Lanewise.Failure
import Lanewise.Target.Resolve

/-!
# Configurations

The settings of a project: the target, the names of types that programs may use without a
definition, and processors described by their features. A configuration is valid if all of its
processors can be built and no setting is out of range.
-/

namespace Lanewise

structure Profile where
  name : String := ""
  arch : String := ""
  features : List String := []
  deriving DecidableEq, Repr, Inhabited

structure Config where
  target : String := "native"
  isLenient : Bool := false
  opaqueTypes : List String := []
  /-- How many units are checked at a time; zero leaves the choice open. -/
  workers : Int := 0
  profiles : List Profile := []
  /-- The file the settings are from, if they are from a file. -/
  path : String := ""
  deriving DecidableEq, Repr, Inhabited

open Text (quoted)

namespace Profile

def featureList : List String → Except String (List Feature)
  | [] => .ok []
  | name :: rest =>
    match Feature.ofName? name with
    | none => .error name
    | some f => (featureList rest).map (f :: ·)

def detector (p : Profile) : Except Failure Detector :=
  match Arch.ofName? p.arch with
  | none => .error (.other ("profile " ++ p.name ++ ": unknown arch " ++ quoted p.arch))
  | some arch =>
    match featureList p.features with
    | .error name =>
      .error (.other ("profile " ++ p.name ++ ": unknown feature " ++ quoted name))
    | .ok features => .ok ((Detector.ofFeatures arch features).named p.name)

end Profile

namespace Config

def fileName : String := "eacheck.yaml"

def nameIssues (place name : String) (seen : List String) : List String :=
  if name == "" then [place ++ ": name must be provided"]
  else if seen.contains name then [place ++ ": duplicate profile " ++ quoted name]
  else []

def profileIssues (n : Nat) (seen : List String) : List Profile → List String
  | [] => []
  | p :: rest =>
    let place := "profiles[" ++ toString n ++ "]"
    nameIssues place p.name seen ++
      (if (Arch.ofName? p.arch).isSome then []
        else [place ++ ": unknown arch " ++ quoted p.arch]) ++
      ((p.features.filter fun f => (Feature.ofName? f).isNone).map fun f =>
        place ++ ": unknown feature " ++ quoted f) ++
      profileIssues (n + 1) (p.name :: seen) rest

def nameListIssues (n : Nat) : List String → List String
  | [] => []
  | name :: rest =>
    (if Text.trim name == "" then
      ["opaque_types[" ++ toString n ++ "] must be a non-empty name"] else []) ++
      nameListIssues (n + 1) rest

def issues (c : Config) : List String :=
  (if c.workers < 0 then ["workers must not be negative"] else []) ++
    nameListIssues 0 c.opaqueTypes ++ profileIssues 0 [] c.profiles

def validate (c : Config) : Except Failure Unit :=
  match c.issues with
  | [] => .ok ()
  | issues => .error (.invalid (if c.path == "" then "<inline>" else c.path) issues)

def profile? (c : Config) (name : String) : Option Profile := c.profiles.find? (·.name == name)

/-- The names a target can have besides those of architectures. -/
def knownTargets (c : Option Config) : List String :=
  "native" :: Detector.levels ++ (c.map fun c => c.profiles.map (·.name)).getD []

/-- The target of a name that is trimmed and not left open. Profiles go before architectures and
levels, so a project can give one of their names to its own processor. -/
def targetNamed (host : Host) (c : Option Config) (name : String) : Except Failure Detector :=
  match c.bind (·.profile? name) with
  | some p =>
    match p.detector with
    | .ok d => .ok d
    | .error f => .error (.within ("compiler: profile " ++ name) f)
  | none =>
    match Detector.forTarget host name with
    | .ok d => .ok d
    | .error message =>
      .error (.within
        ("compiler: resolve target (known: " ++ ", ".intercalate (knownTargets c) ++ ")")
        (.other message))

/-- The target that a name selects. A blank name selects the target of the configuration. -/
def resolveTarget (host : Host) (c : Option Config) (name : String) : Except Failure Detector :=
  let trimmed := Text.trim name
  targetNamed host c (if trimmed == "" then (c.map (·.target)).getD "" else trimmed)

end Config

end Lanewise
