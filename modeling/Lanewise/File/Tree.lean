import Lanewise.File.Route

/-!
# Trees of files

A file system without links: folders that hold files and folders in the order of their names, and
the folder in which relative paths start.
-/

namespace Lanewise.File

inductive Entry
  | file (text : String)
  | folder (entries : List (String × Entry))
  deriving Repr, Inhabited

inductive Problem
  | missing | notFolder | isFolder
  deriving DecidableEq, Repr

def Problem.text : Problem → String
  | .missing => "no such file or directory"
  | .notFolder => "not a directory"
  | .isFolder => "is a directory"

namespace Entry

def isFolder : Entry → Bool
  | .folder _ => true
  | .file _ => false

def find : Entry → Route → Except Problem Entry
  | e, [] => .ok e
  | .file _, _ :: _ => .error .notFolder
  | .folder entries, name :: rest =>
    match entries.lookup name with
    | none => .error .missing
    | some e => e.find rest

/-- Puts an entry in its place among entries ordered by name. One of the same name is replaced. -/
def insert (name : String) (e : Entry) : List (String × Entry) → List (String × Entry)
  | [] => [(name, e)]
  | (other, f) :: rest =>
    if name < other then (name, e) :: (other, f) :: rest
    else if name == other then (name, e) :: rest
    else (other, f) :: insert name e rest

def entries : Entry → List (String × Entry)
  | .folder entries => entries
  | .file _ => []

def put (new : Entry) : Route → Entry → Entry
  | [], old => if new.isFolder && old.isFolder then old else new
  | name :: rest, old =>
    let below := (old.entries.lookup name).getD (.folder [])
    .folder (insert name (put new rest below) old.entries)

mutual
/-- The files of an entry that stands at `route`, folders in order. Folders inside it whose names
start with a dot are passed over. -/
def visibleFiles (route : Route) : Entry → List Route
  | .file _ => [route]
  | .folder entries => visibleFilesIn route entries
def visibleFilesIn (route : Route) : List (String × Entry) → List Route
  | [] => []
  | (name, e) :: rest =>
    (if e.isFolder && name.toList.head? == some '.' then []
      else visibleFiles (route ++ [name]) e) ++ visibleFilesIn route rest
end

end Entry

structure Tree where
  root : Entry
  here : Route

namespace Tree

def ofFiles (here : Route) (folders : List Route) (files : List (Route × String)) : Tree :=
  let start := (here :: folders).foldl (fun e r => Entry.put (.folder []) r e) (.folder [])
  { root := files.foldl (fun e (r, text) => Entry.put (.file text) r e) start, here }

def step (t : Tree) (place : Route) (name : String) : Except Problem Route :=
  match t.root.find place with
  | .error problem => .error problem
  | .ok (.file _) => .error .notFolder
  | .ok (.folder entries) =>
    if name == "" || name == "." then .ok place
    else if name == ".." then .ok place.dropLast
    else if (entries.lookup name).isSome then .ok (place ++ [name])
    else .error .missing

def follow (t : Tree) (path : String) : Except Problem Route :=
  if path == "" then .error .missing
  else (steps path).foldlM t.step (if isAbsolute path then [] else t.here)

def find (t : Tree) (path : String) : Except Problem Entry := do t.root.find (← t.follow path)

/-- The nearest file of a name: in this folder, or else in the innermost folder around it. -/
def nearest? (t : Tree) (name : String) : Option Route :=
  (t.here.upward.map (· ++ [name])).find? fun r =>
    match t.root.find r with
    | .ok (.file _) => true
    | _ => false

end Tree

end Lanewise.File
