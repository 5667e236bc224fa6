import Lanewise.Config.Basic
import Lanewise.File.Tree
import Lanewise.Yaml.Decoding

/-!
# Configuration files

A configuration is the first document of a YAML file; a file without a document leaves every
setting at its default. What is read is validated.
-/

namespace Lanewise.Config

open Yaml (Node DecodeM)

def profileRecord : DecodeM.Record Profile where
  type := "config.Profile"
  field?
    | "name" => some fun p n => return { p with name := (← DecodeM.string n).getD p.name }
    | "arch" => some fun p n => return { p with arch := (← DecodeM.string n).getD p.arch }
    | "features" => some fun p n => do
      return { p with features := (← DecodeM.list "[]string" DecodeM.string n).getD p.features }
    | _ => none

def profile (n : Node) : DecodeM (Option Profile) :=
  return (← DecodeM.record profileRecord n { value := {} }).map (·.value)

def configRecord : DecodeM.Record Config where
  type := "config.Config"
  field?
    | "target" => some fun c n => return { c with target := (← DecodeM.string n).getD c.target }
    | "lenient_annotations" => some fun c n => do
      return { c with isLenient := (← DecodeM.bool n).getD c.isLenient }
    | "opaque_types" => some fun c n => do
      return { c with opaqueTypes :=
        (← DecodeM.list "[]string" DecodeM.string n).getD c.opaqueTypes }
    | "workers" => some fun c n => return { c with workers := (← DecodeM.int n).getD c.workers }
    | "profiles" => some fun c n => do
      return { c with profiles :=
        (← DecodeM.list "[]config.Profile" profile n).getD c.profiles }
    | _ => none

def ofDocument (n : Node) : DecodeM Config :=
  return ((← DecodeM.record configRecord n { value := {} }).map (·.value)).getD {}

def problemsMessage (problems : List Yaml.Problem) : String :=
  "yaml: unmarshal errors:\n  " ++ "\n  ".intercalate (problems.map (·.message))

def settings (text : String) : Except Failure Config :=
  match Yaml.document text with
  | .error fault => .error (.markup fault.message)
  | .ok none => .ok {}
  | .ok (some document) =>
    match (ofDocument document).run [] with
    | .error fault => .error (.markup fault.message)
    -- A blank target is no target.
    | .ok (c, []) => .ok (if Text.trim c.target == "" then { c with target := "native" } else c)
    | .ok (_, problems) => .error (.markup (problemsMessage problems))

def parse (path text : String) : Except Failure Config :=
  match settings text with
  | .error f => .error (.within ("config: parse " ++ path) f)
  | .ok c =>
    let c := { c with path }
    match c.validate with
    | .ok () => .ok c
    | .error f => .error f

def load (t : File.Tree) (path : String) : Except Failure Config :=
  match t.find path with
  | .error problem =>
    .error (.within ("config: open " ++ path)
      (.other ("open " ++ path ++ ": " ++ problem.text)))
  | .ok (.folder _) =>
    .error (.within ("config: parse " ++ path)
      (.markup ("yaml: input error: read " ++ path ++ ": " ++ File.Problem.isFolder.text)))
  | .ok (.file text) => parse path text

/-- The configuration to use: that of the named file, or else the nearest one, or else the
default. -/
def choose (t : File.Tree) (path : String) : Except Failure Config :=
  if path != "" then load t path
  else
    match t.nearest? fileName with
    | some r => load t r.text
    | none => .ok {}

end Lanewise.Config
