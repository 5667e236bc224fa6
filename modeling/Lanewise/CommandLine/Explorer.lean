import Lanewise.CommandLine.Command

/-!
# Exploring

A checker that is given one statement a line and answers each with the type it finds. Lines that
start with a colon ask about the checker itself.
-/

namespace Lanewise.CommandLine

structure Explorer where
  order : Fixture.KeyOrder
  options : RunOptions
  flags : Flags
  checker : Checker

structure Answer where
  chunks : List Chunk
  checker : Checker

namespace Explorer

def prompt : String := "ea> "

def banner : List String := [
  "eacheck explore: enter one statement per line as a YAML flow mapping,",
  "e.g. \x7blet: v, value: \x7bvector: [1.0, 2.0, 3.0, 4.0], kind: f32x4\x7d\x7d",
  "Commands: :vars  :funcs  :target  :caps <kind>  :quit"]

def inputName : String := "<input>"

def listing (entries : List (String × Ty)) : List Chunk :=
  (entries.mergeSort fun a b => decide (a.1 ≤ b.1)).map fun (name, t) =>
    .outLine ("  " ++ name ++ ": " ++ t.text)

def kindAnswer (d : Detector) (name : String) : String :=
  match VectorKind.ofName? name with
  | none => "unknown vector type " ++ Text.quoted name
  | some k =>
    if d.isSupported k then k.text ++ " is native on " ++ d.name
    else k.text ++ " is not native on " ++ d.name ++ ": " ++ d.explain k

def command (e : Explorer) (line : String) : List Chunk :=
  let d := e.options.detector
  match Text.words line with
  | ":vars" :: _ => listing e.checker.context.visibleVariables
  | ":funcs" :: _ => listing e.checker.context.visibleFunctions
  | ":target" :: _ => [.outLine d.text]
  | [":caps", name] => [.outLine (kindAnswer d name)]
  | ":caps" :: _ => [.outLine "usage: :caps <kind>"]
  | _ => [.outLine "unknown command. Type :quit to exit."]

def errorChunks (e : TypeError) : List Chunk :=
  (e.failure.diagnostics inputName).map fun d => .errLine (d.format "")

def statementChunks (s : Stmt) (c : Checker) : List Chunk :=
  match s with
  | .letDecl _ name _ _ _ =>
    match c.context.variableNamed? name with
    | some symbol => [.outLine (name ++ ": " ++ symbol.ty.text)]
    | none => []
  | _ => []

def newlyDeclared (before after : Checker) : List LogEntry :=
  (after.declared.drop before.declared.length).map fun (name, sig) => .declaredFunction name sig

/-- Checks statements in order up to the first error. Expressions answer with their types. -/
def statements (e : Explorer) (c : Checker) : List Stmt → Answer
  | [] => ⟨[], c⟩
  | s :: rest =>
    match s with
    | .expr _ value =>
      match c.checkExpr e.options.rules value with
      | (.error fault, after) => ⟨errorChunks fault, after⟩
      | (.ok t, after) =>
        let next := statements e after rest
        { next with chunks := .outLine (": " ++ t.text) :: next.chunks }
    | _ =>
      let (result, after) := c.checkStmt e.options.rules s
      let logged := e.flags.log (newlyDeclared c after)
      match result with
      | .error fault => ⟨logged ++ errorChunks fault, after⟩
      | .ok () =>
        let next := statements e after rest
        { next with chunks := logged ++ statementChunks s after ++ next.chunks }

def statement (e : Explorer) (line : String) : Answer :=
  match Fixture.parse e.order inputName ("- " ++ line) with
  | .error fault => ⟨[.errLine fault.failure.message], e.checker⟩
  | .ok p => e.statements e.checker p.statements

def isQuit (line : String) : Bool := line == ":quit" || line == ":q"

def answer (e : Explorer) (line : String) : Answer :=
  if line == "" then ⟨[], e.checker⟩
  else if line.toList.head? == some ':' then ⟨e.command line, e.checker⟩
  else e.statement line

def run (e : Explorer) : List String → Output
  | [] => ⟨[.out prompt, .outLine ""], 0⟩
  | raw :: rest =>
    let line := Text.trim raw
    if isQuit line then ⟨[.out prompt], 0⟩
    else
      let a := e.answer line
      (run { e with checker := a.checker } rest).after (.out prompt :: a.chunks)

def greeting (o : RunOptions) : List Chunk :=
  banner.map .outLine ++ [.outLine ("target " ++ o.detector.text)]

/-- Starts to explore. Nothing comes back if that is not possible. -/
def start (m : Machine) (t : File.Tree) (args : List String) : Output × Option Explorer :=
  match Flags.parse {} args with
  | .error .help => (⟨[.out usage], 0⟩, none)
  | .error e => (.error e.message 2, none)
  | .ok (flags, _) =>
    match flags.options m.host t with
    | (logged, .error f) => ((Output.error f.message 1).after logged, none)
    | (logged, .ok options) =>
      (⟨logged ++ greeting options, 0⟩,
        some {
          order := m.order inputName
          options
          flags
          checker := .fresh options.toCheckOptions })

end Explorer

def explore (m : Machine) (t : File.Tree) (args : List String) (lines : List String) : Output :=
  match Explorer.start m t args with
  | (output, none) => output
  | (output, some e) => (e.run lines).after output.chunks

end Lanewise.CommandLine
