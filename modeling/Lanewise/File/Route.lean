/-!
# Paths of files

A path is text with slashes in it. An absolute one without detours is a `Route`: the names from the
root down.
-/

namespace Lanewise.File

def splitSlashes : List Char → List (List Char)
  | [] => [[]]
  | c :: cs =>
    if c == '/' then [] :: splitSlashes cs
    else
      match splitSlashes cs with
      | [] => [[c]]
      | part :: rest => (c :: part) :: rest

def steps (path : String) : List String := (splitSlashes path.toList).map String.ofList

def isAbsolute (path : String) : Bool := path.toList.head? == some '/'

abbrev Route := List String

namespace Route

def text (r : Route) : String := "/" ++ "/".intercalate r

/-- Takes one step without looking at any file. -/
def step (r : Route) (name : String) : Route :=
  if name == "" || name == "." then r
  else if name == ".." then r.dropLast
  else r ++ [name]

def ofPath (here : Route) (path : String) : Route :=
  (steps path).foldl step (if isAbsolute path then [] else here)

def upward (r : Route) : List Route := (List.range (r.length + 1)).reverse.map (r.take ·)

def apart : Route → Route → Route × Route
  | a :: r, b :: base => if a == b then apart r base else (a :: r, b :: base)
  | r, base => (r, base)

def relativeTo (r base : Route) : String :=
  match apart r base with
  | ([], []) => "."
  | (down, up) => "/".intercalate (up.map (fun _ => "..") ++ down)

/-- The path to show for a route: relative if it leads down from `here`. What starts with two dots
counts as leading elsewhere. -/
def display (r here : Route) : String :=
  let relative := r.relativeTo here
  if "..".toList.isPrefixOf relative.toList then r.text else relative

end Route

def withoutLastSlashes (cs : List Char) : List Char := (cs.reverse.dropWhile (· == '/')).reverse

def baseName (path : String) : String :=
  if path == "" then "."
  else
    match withoutLastSlashes path.toList with
    | [] => "/"
    | cs => String.ofList ((splitSlashes cs).getLastD [])

def withoutEnding (ending name : String) : String :=
  if ending.toList.isSuffixOf name.toList then
    String.ofList (name.toList.take (name.length - ending.length))
  else name

def withoutExtension (name : String) : String :=
  let cs := name.toList
  if cs.contains '.' then
    String.ofList ((cs.reverse.dropWhile (· != '.')).drop 1).reverse
  else name

end Lanewise.File
