import Lanewise.CommandLine.Flags
import Lanewise.CommandLine.Output
import Lanewise.Config.Reading
import Lanewise.Program.Printer
import Lanewise.Run.Discovery
import Lanewise.Run.Log
import Lanewise.Text.Columns

/-!
# Commands

Each command as a function from its arguments and the files it can see to what it prints. What else
a run depends on is the machine.
-/

namespace Lanewise.CommandLine

structure Machine where
  host : Host
  /-- The order in which the keys in each file happen to be gone through. -/
  order : String → Fixture.KeyOrder

def usageLines : List String := [
  "eacheck - static type checker for Ea programs with SIMD vector types",
  "",
  "Usage:",
  "  eacheck check [options] <path>...    Type-check fixture files or directories",
  "  eacheck lint [options] <path>...     Type-check, then report style and SIMD advisories",
  "  eacheck caps [--target T] [kind...]  Show which vector kinds a target runs natively",
  "  eacheck explore [options]            Check statements interactively",
  "  eacheck dump <file>                  Print the AST a fixture decodes to",
  "  eacheck help                         Show this message",
  "",
  "Options:",
  "  --target T     Target CPU: native, an architecture (x86_64, aarch64, wasm32, ...),",
  "                 an x86-64 level (x86_64-v2, x86_64-v3, x86_64-v4) or a configured profile",
  "  --config F     Configuration file (default: nearest eacheck.yaml)",
  "  --lenient      Treat unknown type names as opaque user types",
  "  -v             Log progress to stderr",
  "",
  "Programs are read from YAML AST fixtures (*.ea.yaml). Directories are searched",
  "recursively.",
  "",
  "Examples:",
  "  eacheck check kernels/                  Check every fixture under kernels/",
  "  eacheck check --target x86_64-v3 a.ea.yaml",
  "  eacheck caps --target aarch64 f32x4 f32x8"]

def usage : String := String.join (usageLines.map (· ++ "\n"))

def withFlags (args : List String) (run : Flags → List String → Output) : Output :=
  match Flags.parse {} args with
  | .ok (flags, rest) => run flags rest
  | .error .help => ⟨[.out usage], 0⟩
  | .error e => .error e.message 2

namespace Flags

def log (f : Flags) (entries : List LogEntry) : List Chunk :=
  if f.isVerbose then entries.map fun e => .errLine e.text else []

def configLog (f : Flags) (c : Config) : List Chunk :=
  if c.path == "" then [] else f.log [.loadedConfig c.path]

/-- The options that flags and configuration give together, and what is logged on the way. Flags
go before the configuration. -/
def options (f : Flags) (host : Host) (t : File.Tree) : List Chunk × Except Failure RunOptions :=
  match Config.choose t f.config with
  | .error e => ([], .error e)
  | .ok c =>
    match RunOptions.ofConfig host c f.target with
    | .error e => (f.configLog c, .error e)
    | .ok o => (f.configLog c, .ok { o with isLenient := o.isLenient || f.isLenient })

end Flags

def defaultWorkers : Int := 1

def checkLog (verdicts : List Verdict) (o : RunOptions) : List LogEntry :=
  let workers := if 0 < o.workers then o.workers else defaultWorkers
  .checkingUnits verdicts.length workers o.detector.name ::
    verdicts.flatMap fun v => v.log o.detector.name

/-- Errors are for one stream, other diagnostics for the other. -/
def diagnosticChunk (d : Diagnostic) : Chunk :=
  if d.severity == .error then .errLine (d.format "") else .outLine (d.format "")

def conclusion (verdicts : List Verdict) (all : Diagnostics) (o : RunOptions) : Output :=
  let files := toString verdicts.length ++ " file(s)"
  if all.hasErrors then ⟨[.errLine (all.summary ++ " in " ++ files ++ ".")], 1⟩
  else if o.lints then
    if all.isEmpty then ⟨[.outLine "No lint warnings."], 0⟩
    else ⟨[.outLine (all.summary ++ " found.")], 0⟩
  else ⟨[.outLine ("No errors found in " ++ files ++ " for target " ++ o.detector.name ++ ".")], 0⟩

def report (verdicts : List Verdict) (o : RunOptions) : Output :=
  let all := Verdict.summarize verdicts
  (conclusion verdicts all o).after (all.map diagnosticChunk)

def check (lints : Bool) (m : Machine) (t : File.Tree) (args : List String) : Output :=
  withFlags args fun flags paths =>
    if paths.isEmpty then .error "no input file specified" 1
    else
      match flags.options m.host t with
      | (logged, .error f) => (Output.error f.message 1).after logged
      | (logged, .ok o) =>
        let o := { o with lints }
        match Discovery.checkAll m.order t paths o false with
        | .error f => (Output.error f.message 1).after logged
        | .ok verdicts =>
          (report verdicts o).after (logged ++ flags.log (checkLog verdicts o))

def kinds : List String → Except String (List VectorKind)
  | [] => .ok []
  | name :: rest =>
    match VectorKind.ofName? name with
    | none => .error name
    | some k => (kinds rest).map (k :: ·)

def kindRow (d : Detector) (k : VectorKind) : List String :=
  let required := d.requiredFeatures k
  [k.text, toString k.width, toString k.bitWidth,
    if d.isSupported k then "native" else "emulated",
    if required.isEmpty then "-" else Feature.list required]

def kindTable (d : Detector) (ks : List VectorKind) : List String :=
  Text.alignRows (["KIND", "LANES", "BITS", "STATUS", "REQUIRES"] :: ks.map (kindRow d))

def adviceLines (d : Detector) (k : VectorKind) : List String :=
  match d.recommendations k with
  | [] => []
  | notes => "" :: (k.text ++ ":") :: notes.map ("  - " ++ ·)

def caps (m : Machine) (t : File.Tree) (args : List String) : Output :=
  withFlags args fun flags names =>
    match Config.choose t flags.config with
    | .error f => .error f.message 1
    | .ok c =>
      match Config.resolveTarget m.host (some c) flags.target with
      | .error f => .error f.message 1
      | .ok d =>
        match kinds names with
        | .error name => .error ("unknown vector type " ++ Text.quoted name) 1
        | .ok named =>
          let shown := if names.isEmpty then VectorKind.all else named
          let lines := ("Target " ++ d.text) :: "" :: kindTable d shown ++
            named.flatMap (adviceLines d)
          ⟨lines.map .outLine, 0⟩

def dump (m : Machine) (t : File.Tree) (paths : List String) : Output :=
  if paths.isEmpty then .error "no input file specified" 1
  else
    match Discovery.run t [] paths with
    | { failure := some f, .. } => .error f.message 1
    | { routes, .. } =>
      let (programs, diagnostics) := Discovery.loadAll m.order t routes
      let printed := programs.map fun (r, p) => Chunk.out ("# " ++ r.text ++ "\n" ++ p.print)
      if diagnostics.hasErrors then ⟨printed ++ [.errLine (diagnostics.format "")], 1⟩
      else ⟨printed, 0⟩

end Lanewise.CommandLine
