import Lanewise.CommandLine.Explorer

/-!
# The command line

The first argument names a command, the others are for the command.
-/

namespace Lanewise.CommandLine

def run (m : Machine) (t : File.Tree) (args : List String) (lines : List String) : Output :=
  match args with
  | [] => ⟨[.err usage], 1⟩
  | "check" :: rest => check false m t rest
  | "lint" :: rest => check true m t rest
  | "caps" :: rest => caps m t rest
  | "explore" :: rest => explore m t rest lines
  | "dump" :: rest => dump m t rest
  | "help" :: _ | "--help" :: _ | "-h" :: _ => ⟨[.out usage], 0⟩
  | command :: _ => ⟨[.errLine ("Unknown command: " ++ command ++ "\n"), .err usage], 1⟩

end Lanewise.CommandLine
