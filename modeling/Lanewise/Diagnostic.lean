import Lanewise.Pos

/-!
# Diagnostics

A diagnostic is one message at one place of one file. A collection is a list in the order in which
messages were added; `sort` orders it by place and keeps the order of messages at one place.
-/

namespace Lanewise

inductive Severity
  | error | warning | info
  | other (code : Int)
  deriving DecidableEq, Repr, Inhabited

namespace Severity

def text : Severity → String
  | .error => "error"
  | .warning => "warning"
  | .info => "info"
  | .other _ => "unknown"

def ofCode (code : Int) : Severity :=
  match code with
  | 0 => .error
  | 1 => .warning
  | 2 => .info
  | _ => .other code

end Severity

structure Diagnostic where
  severity : Severity
  code : String := ""
  message : String
  pos : Pos
  file : String := ""
  hint : String := ""
  deriving DecidableEq, Repr, Inhabited

namespace Diagnostic

/-- One line, and a second one with the hint. `file` is used if the diagnostic names none. -/
def format (file : String) (d : Diagnostic) : String :=
  let name := if d.file == "" then file else d.file
  let line := d.severity.text ++ "[" ++ name ++ ":" ++ d.pos.text ++ "]: " ++ d.message
  if d.hint == "" then line else line ++ "\n  hint: " ++ d.hint

def stamp (file : String) (d : Diagnostic) : Diagnostic :=
  if d.file == "" then { d with file } else d

/-- Whether the place of `a` is not after that of `b`: by file, then line, then column. Names of
files are compared code point by code point, which is the order of their encoded bytes. -/
def placeLe (a b : Diagnostic) : Bool :=
  if a.file != b.file then a.file < b.file
  else if a.pos.line != b.pos.line then a.pos.line < b.pos.line
  else a.pos.column ≤ b.pos.column

end Diagnostic

abbrev Diagnostics := List Diagnostic

namespace Diagnostics

def merge (ds : Diagnostics) (file : String) (other : Diagnostics) : Diagnostics :=
  ds ++ other.map (·.stamp file)

def sort (ds : Diagnostics) : Diagnostics := List.mergeSort ds Diagnostic.placeLe

def errors (ds : Diagnostics) : Diagnostics := ds.filter (·.severity == .error)

def count (ds : Diagnostics) (severity : Severity) : Nat :=
  List.countP (fun d => d.severity == severity) ds

def errorCount (ds : Diagnostics) : Nat := ds.count .error

def warningCount (ds : Diagnostics) : Nat := ds.count .warning

def hasErrors (ds : Diagnostics) : Bool := 0 < ds.errorCount

def plural (n : Nat) (word : String) : String :=
  if n == 1 then "1 " ++ word else toString n ++ " " ++ word ++ "s"

def summary (ds : Diagnostics) : String :=
  plural ds.errorCount "error" ++ ", " ++ plural ds.warningCount "warning"

def format (file : String) (ds : Diagnostics) : String :=
  "\n".intercalate (ds.map (·.format file))

end Diagnostics

end Lanewise
