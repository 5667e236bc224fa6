import Lanewise.Run.Verdict
import Lanewise.Text.Blank
import Lanewise.Text.Quoted

/-!
# Progress logs

A log entry is a level, a message and fields, written as one line of `key=value` pairs. Values that
would be hard to tell apart from what is around them are quoted.
-/

namespace Lanewise

inductive LogLevel
  | debug | info
  deriving DecidableEq, Repr

def LogLevel.text : LogLevel → String
  | .debug => "DEBUG"
  | .info => "INFO"

structure LogEntry where
  level : LogLevel
  message : String
  fields : List (String × String)
  deriving DecidableEq, Repr

namespace LogEntry

def needsQuotes (c : Char) : Bool :=
  let n := c.toNat
  if n < 0x80 then n ≤ 0x20 || c == '=' || c == '"'
  else n == 0xfffd || Text.isBlank c || !Text.isPrintable c

def value (s : String) : String :=
  if s.toList.isEmpty || s.toList.any needsQuotes then Text.quoted s else s

def text (e : LogEntry) : String :=
  " ".intercalate (("level=" ++ e.level.text) :: ("msg=" ++ value e.message) ::
    e.fields.map fun (key, v) => value key ++ "=" ++ value v)

def loadedConfig (path : String) : LogEntry :=
  ⟨.debug, "loaded configuration", [("path", path)]⟩

def checkingUnits (count : Nat) (workers : Int) (target : String) : LogEntry :=
  ⟨.info, "checking units",
    [("count", toString count), ("workers", toString workers), ("target", target)]⟩

def checkingProgram (statements : Nat) (target : String) : LogEntry :=
  ⟨.debug, "checking program", [("statements", toString statements), ("target", target)]⟩

def declaredFunction (name : String) (sig : Signature) : LogEntry :=
  ⟨.debug, "declared function", [("name", name), ("signature", sig.text)]⟩

def checkedUnit (v : Verdict) : LogEntry :=
  ⟨.debug, "checked unit", [("path", v.path),
    ("errors", toString v.diagnostics.errorCount),
    ("warnings", toString v.diagnostics.warningCount)]⟩

end LogEntry

def Verdict.log (v : Verdict) (target : String) : List LogEntry :=
  let program := match v.program with
    | some p =>
      .checkingProgram p.statements.length target ::
        v.declared.map fun (name, sig) => .declaredFunction name sig
    | none => []
  program ++ [.checkedUnit v]

end Lanewise
