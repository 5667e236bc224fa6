import Lanewise.Target.Requirement

/-!
# Detectors

A detector answers which vector kinds one target runs. It is an architecture, the features that
are there, and the name under which the target was asked for.
-/

namespace Lanewise

structure Detector where
  arch : Arch
  features : FeatureSet
  name : String
  deriving DecidableEq, Repr, Inhabited

namespace Detector

/-- A target with exactly the given features, named after its architecture. -/
def ofFeatures (arch : Arch) (features : List Feature) : Detector :=
  { arch, features := .ofList features, name := arch.text }

def named (d : Detector) (name : String) : Detector := { d with name }

def has (d : Detector) (f : Feature) : Bool := d.features.has f

def text (d : Detector) : String := d.name ++ " [" ++ d.features.text ++ "]"

def isSupported (d : Detector) (kind : VectorKind) : Bool :=
  kind.requirements.any fun r => r.appliesTo d.arch && d.features.hasAll r.features

def alternatives (d : Detector) (kind : VectorKind) : List (List Feature) :=
  (kind.requirements.filter (·.appliesTo d.arch)).map (·.features)

/-- What the kind needs here: the first alternative that is met, or else the first one. Nothing
if the architecture cannot run the kind at all. -/
def requiredFeatures (d : Detector) (kind : VectorKind) : List Feature :=
  let alternatives := d.alternatives kind
  (alternatives.find? d.features.hasAll).getD (alternatives.headD [])

def missingFeatures (d : Detector) (kind : VectorKind) : List Feature :=
  (d.requiredFeatures kind).filter (!d.has ·)

/-- Why a kind does not run here; empty if it does. -/
def explain (d : Detector) (kind : VectorKind) : String :=
  if d.isSupported kind then ""
  else
    match d.missingFeatures kind with
    | [] => d.name ++ " has no instruction set for " ++ kind.text
    | missing => "requires " ++ Feature.list missing

end Detector

end Lanewise
