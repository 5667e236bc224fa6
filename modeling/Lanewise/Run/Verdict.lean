import Lanewise.Check.Program
import Lanewise.Config.Basic
import Lanewise.Fixture.Source
import Lanewise.Lint.Report

/-!
# Verdicts

The outcome of checking one unit, that is, one file with one program. A unit is in order if its
file holds a program and the program has no type error. Linting adds warnings and notes to a unit
that is in order and changes nothing else.
-/

namespace Lanewise

structure RunOptions extends CheckOptions where
  lints : Bool := false
  workers : Int := 0

namespace RunOptions

def ofConfig (host : Host) (c : Config) (target : String) : Except Failure RunOptions :=
  match Config.resolveTarget host (some c) target with
  | .error f => .error f
  | .ok detector => .ok {
      detector
      isLenient := c.isLenient
      opaqueTypes := c.opaqueTypes
      workers := c.workers }

end RunOptions

structure Verdict where
  path : String
  program : Option Program := none
  checked : Option Checker := none
  /-- The functions whose declarations are in order, in the order in which they were checked. -/
  declared : List (String × Signature) := []
  diagnostics : Diagnostics := []

namespace Verdict

def isOk (v : Verdict) : Bool := v.checked.isSome && !v.diagnostics.hasErrors

def ofFailure (path : String) (f : Failure) : Verdict :=
  { path, diagnostics := Diagnostics.merge [] path (f.diagnostics path) }

def ofProgram (path : String) (p : Program) (o : RunOptions) : Verdict :=
  match p.run o.toCheckOptions with
  | (.error e, c) =>
    { ofFailure path e.failure with program := some p, declared := c.declared }
  | (.ok (), c) => {
      path
      program := some p
      checked := some c
      declared := c.declared
      diagnostics :=
        if o.lints then Diagnostics.merge [] path (p.lint (some o.detector)) else [] }

def ofDecoded (path : String) (decoded : Except Fixture.Error Program) (o : RunOptions) :
    Verdict :=
  match decoded with
  | .error e => ofFailure path e.failure
  | .ok p => ofProgram path p o

def ofSource (order : Fixture.KeyOrder) (path text : String) (o : RunOptions) : Verdict :=
  ofDecoded path (Fixture.parse order path text) o

def ofFile (order : Fixture.KeyOrder) (t : File.Tree) (path : String) (o : RunOptions) : Verdict :=
  ofDecoded path (Fixture.load order t path) o

def summarize (verdicts : List Verdict) : Diagnostics :=
  Diagnostics.sort
    (verdicts.foldl (fun all v => Diagnostics.merge all v.path v.diagnostics) [])

end Verdict

end Lanewise
