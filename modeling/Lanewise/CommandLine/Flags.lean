import Lanewise.Text.Quoted

/-!
# Flags

The flags of the commands that check programs. A flag starts with one or two dashes and may carry
its value behind an equals sign. Flags end at the first argument that is none, or behind `--`.
-/

namespace Lanewise.CommandLine

structure Flags where
  target : String := ""
  config : String := ""
  isLenient : Bool := false
  isVerbose : Bool := false
  deriving DecidableEq, Repr

inductive FlagError
  | help
  | badForm (arg : String)
  | unknown (name : String)
  | noValue (name : String)
  | notBool (name value : String)
  deriving DecidableEq, Repr

def FlagError.message : FlagError → String
  | .help => "flag: help requested"
  | .badForm arg => "bad flag syntax: " ++ arg
  | .unknown name => "flag provided but not defined: -" ++ name
  | .noValue name => "flag needs an argument: -" ++ name
  | .notBool name value =>
    "invalid boolean value " ++ Text.quoted value ++ " for -" ++ name ++ ": parse error"

def bool? : String → Option Bool
  | "1" | "t" | "T" | "true" | "TRUE" | "True" => some true
  | "0" | "f" | "F" | "false" | "FALSE" | "False" => some false
  | _ => none

inductive Arg
  | positional
  | endOfFlags
  | malformed
  | flag (name : String) (value : Option String)
  deriving DecidableEq, Repr

/-- A name, and a value behind the first equals sign that does not come first. -/
def splitValue (cs : List Char) : Arg :=
  match cs with
  | [] => .malformed
  | c :: rest =>
    if c == '-' || c == '=' then .malformed
    else
      let name := String.ofList (c :: rest.takeWhile (· != '='))
      match rest.dropWhile (· != '=') with
      | [] => .flag name none
      | _ :: value => .flag name (some (String.ofList value))

def Arg.ofText (s : String) : Arg :=
  match s.toList with
  | '-' :: '-' :: [] => .endOfFlags
  | '-' :: '-' :: rest => splitValue rest
  | '-' :: c :: rest => splitValue (c :: rest)
  | _ => .positional

namespace Flags

def textFlag? : String → Option (Flags → String → Flags)
  | "target" => some fun f v => { f with target := v }
  | "config" => some fun f v => { f with config := v }
  | _ => none

def switch? : String → Option (Flags → Bool → Flags)
  | "lenient" => some fun f b => { f with isLenient := b }
  | "v" => some fun f b => { f with isVerbose := b }
  | _ => none

def parse (f : Flags) : List String → Except FlagError (Flags × List String)
  | [] => .ok (f, [])
  | arg :: rest =>
    match Arg.ofText arg with
    | .positional => .ok (f, arg :: rest)
    | .endOfFlags => .ok (f, rest)
    | .malformed => .error (.badForm arg)
    | .flag name value =>
      match textFlag? name, switch? name with
      | some set, _ =>
        match value with
        | some v => parse (set f v) rest
        | none =>
          match rest with
          | v :: others => parse (set f v) others
          | [] => .error (.noValue name)
      | none, some set =>
        match value with
        | none => parse (set f true) rest
        | some v =>
          match bool? v with
          | some b => parse (set f b) rest
          | none => .error (.notBool name v)
      | none, none =>
        if name == "help" || name == "h" then .error .help else .error (.unknown name)

end Flags

end Lanewise.CommandLine
