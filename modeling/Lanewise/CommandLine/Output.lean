/-!
# What a command prints

The pieces of text a command writes, each for one of the two streams, in order.
-/

namespace Lanewise.CommandLine

inductive Chunk
  | out (text : String)
  | err (text : String)
  deriving DecidableEq, Repr

def Chunk.outLine (s : String) : Chunk := .out (s ++ "\n")

def Chunk.errLine (s : String) : Chunk := .err (s ++ "\n")

structure Output where
  chunks : List Chunk
  exit : Nat
  deriving DecidableEq, Repr

namespace Output

def out (o : Output) : String :=
  String.join (o.chunks.filterMap fun
    | .out s => some s
    | .err _ => none)

def err (o : Output) : String :=
  String.join (o.chunks.filterMap fun
    | .err s => some s
    | .out _ => none)

def after (o : Output) (chunks : List Chunk) : Output := { o with chunks := chunks ++ o.chunks }

def error (message : String) (exit : Nat) : Output := ⟨[.errLine ("Error: " ++ message)], exit⟩

end Output

end Lanewise.CommandLine
