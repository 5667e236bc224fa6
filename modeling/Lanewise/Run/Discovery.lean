import Lanewise.Run.Verdict

/-!
# Finding units

A path that names a file is a unit. A path that names a folder stands for the fixture files below
it, except those in folders whose names start with a dot. Every unit counts once, and units are
ordered by their paths.
-/

namespace Lanewise

open File (Route)

/-- The units found so far, and what went wrong if the search did not come to its end. -/
structure Discovery where
  routes : List Route
  failure : Option Failure := none

namespace Discovery

def add (known : List Route) (r : Route) : List Route :=
  if known.contains r then known else known ++ [r]

def isFixture (r : Route) : Bool :=
  Fixture.ending.toList.isSuffixOf ((r.getLastD "").toList)

def unitsOf (r : Route) : File.Entry → List Route
  | .file _ => [r]
  | .folder entries => (File.Entry.visibleFilesIn r entries).filter isFixture

def pathLe (a b : Route) : Bool := decide (a.text ≤ b.text)

def notFound (path : String) (r : Route) (problem : File.Problem) : Failure :=
  .within ("compiler: unit not found: " ++ path)
    (.other ("stat " ++ r.text ++ ": " ++ problem.text))

/-- Adds the units that paths stand for to the known ones. The result is ordered unless a path
leads nowhere. -/
def run (t : File.Tree) (known : List Route) : List String → Discovery
  | [] => { routes := known.mergeSort pathLe }
  | path :: rest =>
    let r := Route.ofPath t.here path
    match t.root.find r with
    | .error problem => { routes := known, failure := some (notFound path r problem) }
    | .ok e => run t ((unitsOf r e).foldl add known) rest

def loadAll (order : String → Fixture.KeyOrder) (t : File.Tree) :
    List Route → List (Route × Program) × Diagnostics
  | [] => ([], [])
  | r :: rest =>
    let (programs, diagnostics) := loadAll order t rest
    match Fixture.load (order r.text) t r.text with
    | .ok p => ((r, p) :: programs, diagnostics)
    | .error e =>
      (programs, Diagnostics.merge [] r.text (e.failure.diagnostics r.text) ++ diagnostics)

/-- The verdicts on the units that paths stand for. An interrupted run gives none. -/
def checkAll (order : String → Fixture.KeyOrder) (t : File.Tree) (paths : List String)
    (o : RunOptions) (interrupted : Bool) : Except Failure (List Verdict) :=
  match run t [] paths with
  | { failure := some f, .. } => .error f
  | { routes, .. } =>
    -- Without units there is nothing to interrupt.
    if interrupted && !routes.isEmpty then
      .error (.within "compiler: check interrupted" (.other "context canceled"))
    else .ok (routes.map fun r => .ofFile (order (r.display t.here)) t (r.display t.here) o)

end Discovery

end Lanewise
