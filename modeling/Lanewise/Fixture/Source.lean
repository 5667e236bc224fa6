import Lanewise.Failure
import Lanewise.File.Tree
import Lanewise.Fixture.Reading
import Lanewise.Yaml.Document

/-!
# Programs as documents

A fixture is a list of statements, or a mapping with the name of the program and its statements. A
program that is not named has the name of its file.
-/

namespace Lanewise.Fixture

open Yaml (Node)

def ending : String := ".ea.yaml"

def programName (file : String) : String :=
  File.withoutExtension (File.withoutEnding ending (File.baseName file))

/-- Takes one field of a program in. A field given twice keeps its last value. -/
def takeField (order : KeyOrder) (p : Program) (field : Node × Node) : Read Program := do
  let (key, value) := (field.1, field.2.resolve)
  match key.keyText with
  | "name" => return { p with name := ← scalarText value }
  | "statements" => return { p with statements := ← readStmts order value }
  | other => throw ⟨key.pos, .unknownProgramField other⟩

/-- The program that a document holds, called `name` if the document does not name it. -/
def program (order : KeyOrder) (name : String) (document : Node) : Read Program := do
  match document.resolve with
  | .mapping _ _ fields => fields.foldlM (takeField order) { name, statements := [] }
  | .sequence pos tag items =>
    return { name, statements := ← readStmts order (.sequence pos tag items) }
  | other => throw ⟨other.pos, .notProgram other.tag⟩

inductive Error
  | unreadable (file operation : String) (problem : File.Problem)
  | markup (file : String) (fault : Yaml.Fault)
  | empty (file : String)
  | flawed (file : String) (flaw : Flaw)

def Error.failure : Error → Failure
  | .unreadable file operation problem =>
    .within ("fixture: read " ++ file)
      (.other (operation ++ " " ++ file ++ ": " ++ problem.text))
  | .markup file fault => .within ("fixture: parse " ++ file) (.markup fault.message)
  | .empty file => .other ("fixture: " ++ file ++ " is empty")
  | .flawed file flaw => .malformed file flaw.defect.message flaw.pos

def parse (order : KeyOrder) (file text : String) : Except Error Program :=
  match Yaml.document text with
  | .error fault => .error (.markup file fault)
  | .ok none => .error (.empty file)
  | .ok (some document) =>
    match program order (programName file) document with
    | .ok p => .ok p
    | .error flaw => .error (.flawed file flaw)

def load (order : KeyOrder) (t : File.Tree) (file : String) : Except Error Program :=
  match t.find file with
  | .error problem => .error (.unreadable file "open" problem)
  | .ok (.folder _) => .error (.unreadable file "read" .isFolder)
  | .ok (.file text) => parse order file text

end Lanewise.Fixture
