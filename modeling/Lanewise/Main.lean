import Lanewise.CommandLine.Run

/-!
# The program

Reads the files that the arguments name and those that could configure the run, and hands them to
the command line. Statements to explore are read one line at a time.
-/

namespace Lanewise.Main

open CommandLine (Chunk Explorer)
open File (Route)

structure Found where
  folders : List Route := []
  files : List (Route × String) := []

namespace Found

def join (a b : Found) : Found := ⟨a.folders ++ b.folders, a.files ++ b.files⟩

def ofFile (r : Route) : IO Found := do
  try
    let text ← IO.FS.readFile r.text
    return { files := [(r, text)] }
  catch _ => return { files := [(r, "")] }

def isMarkup (name : String) : Bool := ".yaml".toList.isSuffixOf name.toList

partial def ofRoute (r : Route) : IO Found := do
  try
    let path ← IO.FS.realPath r.text
    if ← path.isDir then
      let mut found : Found := { folders := [r] }
      for entry in ← path.readDir do
        let name := entry.fileName
        if ← entry.path.isDir then
          if name.toList.head? != some '.' then found := found.join (← ofRoute (r ++ [name]))
        else if isMarkup name then found := found.join (← ofFile (r ++ [name]))
        else found := found.join { files := [(r ++ [name], "")] }
      return found
    else if ← path.pathExists then ofFile r
    else return {}
  catch _ => return {}

def foldersOn (here : Route) (path : String) : IO Found := do
  let steps := File.steps path
  let mut folders : List Route := []
  for n in List.range steps.length do
    let r := Route.ofPath here ("/".intercalate (steps.take n))
    try
      if ← (← IO.FS.realPath r.text).isDir then folders := r :: folders
    catch _ => continue
  return { folders }

/-- The paths that an argument can stand for: itself and what it sets a flag to. -/
def pathsOf (arg : String) : List String :=
  match arg.toList.dropWhile (· != '=') with
  | [] => [arg]
  | _ :: value => [arg, String.ofList value]

def ofArgs (here : Route) (args : List String) : IO Found := do
  let mut found : Found := {}
  for folder in here.upward do
    let r := folder ++ [Config.fileName]
    try
      let path ← IO.FS.realPath r.text
      if ← path.isDir then found := found.join { folders := [r] }
      else if ← path.pathExists then found := found.join (← ofFile r)
    catch _ => continue
  for path in args.flatMap pathsOf do
    found := found.join (← foldersOn here path)
    found := found.join (← ofRoute (Route.ofPath here path))
  return found

end Found

def print (chunks : List Chunk) : IO Unit := do
  for chunk in chunks do
    match chunk with
    | .out text => IO.print text
    | .err text => IO.eprint text
  (← IO.getStdout).flush

/-- The machine that is taken for the one that the program runs on, known by what its architecture
guarantees. Keys are gone through as they are written. -/
def machine : CommandLine.Machine where
  host := ⟨"amd64", (· == .sse2)⟩
  order _ := .written

partial def converse (e : Explorer) : IO Unit := do
  print [.out Explorer.prompt]
  let raw ← (← IO.getStdin).getLine
  if raw.isEmpty then print [.outLine ""]
  else
    let line := Text.trim raw
    if !Explorer.isQuit line then
      let a := e.answer line
      print a.chunks
      converse { e with checker := a.checker }

end Lanewise.Main

open Lanewise in
def main (args : List String) : IO UInt32 := do
  let here := File.Route.ofPath [] (← IO.currentDir).toString
  let found ← Main.Found.ofArgs here (args.drop 1)
  let tree := File.Tree.ofFiles here found.folders found.files
  match args with
  | "explore" :: rest =>
    let (output, explorer) := CommandLine.Explorer.start Main.machine tree rest
    Main.print output.chunks
    if let some e := explorer then Main.converse e
    return output.exit.toUInt32
  | _ =>
    let output := CommandLine.run Main.machine tree args []
    Main.print output.chunks
    return output.exit.toUInt32
