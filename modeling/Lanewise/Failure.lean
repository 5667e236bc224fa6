import Lanewise.Check.Fault
import Lanewise.Diagnostic

/-!
# Failures

What any part of the program can fail with, as it is told to a user: the class of the failure, its
message, and the circumstances it happened in.
-/

namespace Lanewise

inductive Failure
  | typing (kind : ErrorKind) (message : String) (pos : Pos)
  | malformed (file message : String) (pos : Pos)
  | invalid (path : String) (issues : List String)
  | markup (message : String)
  | other (message : String)
  /-- A failure in circumstances that its message has to name. -/
  | within (circumstances : String) (cause : Failure)
  deriving DecidableEq, Repr

namespace Failure

def message : Failure → String
  | .typing _ message pos => pos.text ++ ": " ++ message
  | .malformed file message pos => file ++ ":" ++ pos.text ++ ": " ++ message
  | .invalid path issues => "config: " ++ path ++ ": " ++ "; ".intercalate issues
  | .markup message => message
  | .other message => message
  | .within circumstances cause => circumstances ++ ": " ++ cause.message

def root : Failure → Failure
  | .within _ cause => cause.root
  | f => f

def hint : ErrorKind → String
  | .unsupportedKind =>
    "select a wider target with --target or define a profile in eacheck.yaml"
  | .unknownType => "declare the name in opaque_types or check with --lenient"
  | _ => ""

/-- A failure as a diagnostic. Failures with a place of their own need no circumstances. -/
def diagnostic (f : Failure) : Diagnostic :=
  match f.root with
  | .typing kind message pos =>
    { severity := .error, code := kind.text, message, pos, hint := hint kind }
  | .malformed _ message pos => { severity := .error, code := "fixture", message, pos }
  | _ => { severity := .error, message := f.message, pos := .none }

def diagnostics (f : Failure) (path : String) : Diagnostics := [f.diagnostic.stamp path]

end Failure

def TypeError.failure (e : TypeError) : Failure := .typing e.fault.kind e.fault.message e.pos

end Lanewise
