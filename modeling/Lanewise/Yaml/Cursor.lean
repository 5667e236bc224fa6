/-!
# Reading positions

A cursor is the text that is still to be read together with the place where it starts. Lines and
columns are counted from zero here and columns in characters; five characters break a line, and
carriage return with line feed is one break.
-/

namespace Lanewise.Yaml

structure Mark where
  index : Nat
  line : Nat
  column : Nat
  deriving DecidableEq, Repr, Inhabited

structure Fault where
  line : Nat
  problem : String
  deriving DecidableEq, Repr, Inhabited

def Fault.message (f : Fault) : String :=
  "yaml: line " ++ toString (f.line + 1) ++ ": " ++ f.problem

def isSpace (c : Char) : Bool := c == ' ' || c == '\t'

def isBreak (c : Char) : Bool :=
  c == '\n' || c == '\r' || c == '\u0085' || c == '\u2028' || c == '\u2029'

def isWordChar (c : Char) : Bool := c.isAlphanum || c == '_' || c == '-'

def endsWord : Option Char → Bool
  | none => true
  | some c => isSpace c || isBreak c

def endsLine : Option Char → Bool
  | none => true
  | some c => isBreak c

structure Cursor where
  rest : List Char
  mark : Mark
  breaks : Nat
  /-- A bound on the steps that reading the rest can take. -/
  fuel : Nat
  deriving Repr, Inhabited

namespace Cursor

def ofText (cs : List Char) : Cursor := ⟨cs, ⟨0, 0, 0⟩, 0, cs.length + 1⟩

def peek? (c : Cursor) : Option Char := c.rest.head?

def ahead? (c : Cursor) (n : Nat) : Option Char := c.rest[n]?

def column (c : Cursor) : Nat := c.mark.column

def fault (c : Cursor) (problem : String) : Fault := ⟨c.mark.line, problem⟩

def advance (c : Cursor) : Cursor :=
  match c.rest with
  | [] => c
  | x :: rest =>
    { c with
      rest
      mark := { c.mark with index := c.mark.index + 1, column := c.mark.column + 1 }
      breaks := if isSpace x then c.breaks else 0 }

def advanceBy : Nat → Cursor → Cursor
  | 0, c => c
  | n + 1, c => advanceBy n c.advance

/-- Passes one line break and gives it in normal form. Only the Unicode line and paragraph
separators stand for themselves. -/
def takeBreak (c : Cursor) : List Char × Cursor :=
  let next (rest : List Char) (n : Nat) : Cursor :=
    ⟨rest, ⟨c.mark.index + n, c.mark.line + 1, 0⟩, c.breaks + 1, c.fuel⟩
  match c.rest with
  | '\r' :: '\n' :: rest => (['\n'], next rest 2)
  | x :: rest =>
    if x == '\u2028' || x == '\u2029' then ([x], next rest 1)
    else if isBreak x then (['\n'], next rest 1)
    else ([], c)
  | [] => ([], c)

def passBreak (c : Cursor) : Cursor := c.takeBreak.2

def passWhile (p : Char → Bool) : Nat → Cursor → Cursor
  | 0, c => c
  | fuel + 1, c =>
    match c.peek? with
    | some x => if p x then passWhile p fuel c.advance else c
    | none => c

def passSpaces (c : Cursor) : Cursor := c.passWhile isSpace c.fuel

def passLine (c : Cursor) : Cursor := c.passWhile (fun x => !isBreak x) c.fuel

/-- Whether a line starts here with three times `x` and then a blank or its end. -/
def atMarker (c : Cursor) (x : Char) : Bool :=
  c.column == 0 && c.rest.take 3 == [x, x, x] && endsWord (c.ahead? 3)

def atDocumentMarker (c : Cursor) : Bool := c.atMarker '-' || c.atMarker '.'

end Cursor

end Lanewise.Yaml
