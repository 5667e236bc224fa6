import Lanewise.Yaml.Comment
import Lanewise.Yaml.Property
import Lanewise.Yaml.Row
import Lanewise.Yaml.Scalar.Block
import Lanewise.Yaml.Scalar.Plain

/-!
# From text to tokens

The text is read token by token. Two things are decided late: whether something already read was
a mapping key, which only the colon behind it tells, and where a block ends, which only a line
with less indentation tells. A possible key is remembered with the number of its token, so that
the tokens that open the mapping can be put in front of it.

So tokens wait in a row. The first one is ready to be handed out if no later text could change it
and two more tokens wait behind it.
-/

namespace Lanewise.Yaml

/-- Something that turns out to be a key if a colon follows. -/
structure KeyCandidate where
  token : Nat
  mark : Mark
  required : Bool
  /-- Whether it was not given up yet for being too far back. -/
  isOpen : Bool := true
  deriving Repr

structure Scanner where
  cursor : Cursor
  row : Row Token := Row.push {} ⟨.streamStart, ⟨0, 0, 0⟩, ⟨0, 0, 0⟩⟩
  given : Nat := 0
  /-- The comments that do not go with a token handed out already, newest first. -/
  comments : List Comment := []
  /-- The column of the current block, or -1 outside of all blocks. -/
  indent : Int := -1
  indents : List Int := []
  keyAllowed : Bool := true
  /-- The possible key of each open flow collection, innermost first, and of the block. -/
  keys : List (Option KeyCandidate) := [none]
  /-- The tokens that a possible key starts with, each with the number of flow collections that
  were open. A candidate that was given up stays here, and stands for the next one in its place. -/
  watched : List (Nat × Nat) := []

def maxDepth : Nat := 10000

/-- A key is on one line and not longer than this. -/
def maxKeyLength : Nat := 1024

namespace Scanner

def flowLevel (s : Scanner) : Nat := s.keys.length - 1

def inFlow (s : Scanner) : Bool := 0 < s.flowLevel

def column (s : Scanner) : Nat := s.cursor.column

def candidate? (s : Scanner) : Option KeyCandidate := (s.keys.headD none)

def setCandidate (s : Scanner) (k : Option KeyCandidate) : Scanner :=
  { s with keys := k :: s.keys.tail }

def emit (s : Scanner) (lexeme : Lexeme) (start stop : Mark) : Scanner :=
  { s with row := s.row.push ⟨lexeme, start, stop⟩ }

def emitAt (s : Scanner) (number : Nat) (lexeme : Lexeme) (mark : Mark) : Scanner :=
  { s with row := s.row.insert (number - s.given) ⟨lexeme, mark, mark⟩ }

def lastToken? (s : Scanner) : Option Token := s.row.waiting.getLast?

def priorToken? (s : Scanner) : Option Token := s.row.waiting.dropLast.getLast?

def isStale (s : Scanner) (k : KeyCandidate) : Bool :=
  k.mark.line < s.cursor.mark.line || k.mark.index + maxKeyLength < s.cursor.mark.index

def unwatch (s : Scanner) (token : Nat) : Scanner :=
  { s with watched := s.watched.filter (·.1 != token) }

def dropCandidate (s : Scanner) : Except Fault Scanner :=
  match s.candidate? with
  | some k =>
    if !k.isOpen then .ok s
    else if k.required then .error (s.cursor.fault "could not find expected ':'")
    else .ok ((s.setCandidate none).unwatch k.token)
  | none => .ok s

def saveCandidate (s : Scanner) : Except Fault Scanner :=
  if s.keyAllowed then do
    -- At the column of the block itself, only a key can keep the block going.
    let required := !s.inFlow && s.indent == (s.column : Int)
    let s ← s.dropCandidate
    let token := s.given + s.row.waiting.length
    .ok { s.setCandidate (some { token, mark := s.cursor.mark, required }) with
      watched := (token, s.flowLevel) :: s.watched }
  else .ok s

/-- Opens a block if the column is further right than the current one. The opening token goes in
front of the token `number`, or to the end. -/
def rollIndent (s : Scanner) (column : Nat) (number : Option Nat) (lexeme : Lexeme) (mark : Mark) :
    Except Fault Scanner :=
  if !s.inFlow && s.indent < (column : Int) then
    let s := { s with indents := s.indent :: s.indents, indent := column }
    if maxDepth < s.indents.length then .error (s.cursor.fault "exceeded max depth of 10000")
    else
      match number with
      | some n => .ok (s.emitAt n lexeme mark)
      | none => .ok (s.emit lexeme mark mark)
  else .ok s

/-- Closes the blocks that start right of the column. They end at `mark`, or at a comment. -/
def closeBlocks (column : Int) : (mark : Mark) → List Int → Scanner → Scanner
  | _, [], s => s
  | mark, outer :: rest, s =>
    if column < s.indent then
      let mark := Comment.endOfBlock s.indent s.comments mark.index mark
      closeBlocks column mark rest
        { s.emit .blockEnd mark mark with indent := outer, indents := rest }
    else s

def unrollIndent (s : Scanner) (column : Int) (mark : Mark) : Scanner :=
  if s.inFlow then s
  else closeBlocks column { mark with index := mark.index - 1 } s.indents s

def closeDocument (s : Scanner) : Except Fault Scanner :=
  (s.unrollIndent (-1) s.cursor.mark).dropCandidate

/-- A comment at the end of a line, with nothing but the first `-` of a sequence behind it, goes
with what follows the `-`. -/
def promoteComment (s : Scanner) : Scanner :=
  match s.comments with
  | c :: older =>
    if c.role == .line && s.priorToken?.any (·.lexeme == .blockSequenceStart) &&
        s.lastToken?.any (·.lexeme == .blockEntry) && !s.cursor.peek?.any isBreak then
      let isAbove := c.start.line + 1 == s.cursor.mark.line
      let owner := if isAbove then s.cursor.mark.index else c.owner
      { s with comments := { c with role := .head, owner } :: older }
    else s
  | [] => s

def passComments (s : Scanner) (gap : Nat) : Scanner :=
  let last := if s.lastToken?.any (·.lexeme == .flowEntry) then s.priorToken?.or s.lastToken?
    else s.lastToken?
  let c := s.cursor
  let below := c.mark.line - c.breaks + 1
  let place : CommentPlace := {
    inFlow := s.inFlow
    indent := s.indent.toNat
    footLine := if c.breaks == 0 && 1 < c.column then below + 1 else below
    afterColon := last.any (·.lexeme == .value) }
  let (comments, next) := readComments place gap ((last.map (·.start.index)).getD 0) c
  { s with cursor := next, comments := comments ++ s.comments }

/-- Passes blanks, comments and line breaks, of which the first is at `gap`. A tab is no blank
where a key could start. -/
def toNextToken (gap : Nat) : Nat → Scanner → Scanner
  | 0, s => s
  | fuel + 1, s =>
    let c := s.cursor
    -- A byte order mark is passed at the start of the text and is a character like any other
    -- further on.
    let c := if c.mark.index == 0 && c.peek? == some '\ufeff' then c.advance else c
    let c := c.passWhile (fun x => x == ' ' || ((s.inFlow || !s.keyAllowed) && x == '\t')) c.fuel
    let s := { s with cursor := c }.promoteComment
    let s := if c.peek? == some '#' then s.passComments gap else s
    if s.cursor.peek?.any isBreak then
      toNextToken gap fuel
        { s with cursor := s.cursor.passBreak, keyAllowed := s.keyAllowed || !s.inFlow }
    else s

def passLineComment (s : Scanner) (owner : Nat) : Scanner :=
  if 0 < s.cursor.breaks then s
  else
    let c := s.cursor.passWhile isSpace CommentSearch.maxGap
    if c.peek? == some '#' && c.mark.index - s.cursor.mark.index < CommentSearch.maxGap then
      { s with
        cursor := c.passLine
        comments := { role := .line, owner, start := c.mark } :: s.comments }
    else s

def emitHere (s : Scanner) (lexeme : Lexeme) (n : Nat) : Scanner :=
  let next := s.cursor.advanceBy n
  { s.emit lexeme s.cursor.mark next.mark with cursor := next }

def streamEnd (s : Scanner) : Except Fault Scanner := do
  let mark := s.cursor.mark
  -- The end of the text counts as the start of a line.
  let mark := if mark.column == 0 then mark else { mark with line := mark.line + 1, column := 0 }
  let s := { s with cursor := { s.cursor with mark } }
  let s ← s.closeDocument
  pure { s.emit .streamEnd mark mark with keyAllowed := false }

def directive (s : Scanner) : Except Fault Scanner := do
  let s ← s.closeDocument
  let (lexeme, stop, next) ← readDirective s.cursor
  pure { s.emit lexeme s.cursor.mark stop with cursor := next, keyAllowed := false }

def documentMarker (s : Scanner) (lexeme : Lexeme) : Except Fault Scanner := do
  let s ← s.closeDocument
  pure { s.emitHere lexeme 3 with keyAllowed := false }

def flowStart (s : Scanner) (lexeme : Lexeme) : Except Fault Scanner := do
  let s ← s.saveCandidate
  let s := { s with keys := none :: s.keys }
  if maxDepth < s.flowLevel then throw (s.cursor.fault "exceeded max depth of 10000")
  pure { s.emitHere lexeme 1 with keyAllowed := true }

def flowEnd (s : Scanner) (lexeme : Lexeme) : Except Fault Scanner := do
  let s ← s.dropCandidate
  let s := match s.candidate? with
    | some k => if s.inFlow then s.unwatch k.token else s
    | none => s
  let s := if s.inFlow then { s with keys := s.keys.tail } else s
  pure { s.emitHere lexeme 1 with keyAllowed := false }

def flowEntry (s : Scanner) : Except Fault Scanner := do
  let s ← s.dropCandidate
  pure { s.emitHere .flowEntry 1 with keyAllowed := true }

def blockEntry (s : Scanner) : Except Fault Scanner := do
  let s ← if s.inFlow then pure s
    else if !s.keyAllowed then
      throw (s.cursor.fault "block sequence entries are not allowed in this context")
    else s.rollIndent s.column none .blockSequenceStart s.cursor.mark
  let s ← s.dropCandidate
  pure { s.emitHere .blockEntry 1 with keyAllowed := true }

def explicitKey (s : Scanner) : Except Fault Scanner := do
  let s ← if s.inFlow then pure s
    else if !s.keyAllowed then
      throw (s.cursor.fault "mapping keys are not allowed in this context")
    else s.rollIndent s.column none .blockMappingStart s.cursor.mark
  let s ← s.dropCandidate
  pure { s.emitHere .key 1 with keyAllowed := !s.inFlow }

def valueOfKey (s : Scanner) (k : KeyCandidate) : Except Fault Scanner := do
  -- The tokens that open the mapping go in front of the key, which was read long ago.
  let s := s.emitAt k.token .key k.mark
  let s ← s.rollIndent k.mark.column (some k.token) .blockMappingStart k.mark
  pure { ((s.setCandidate none).unwatch k.token).emitHere .value 1 with keyAllowed := false }

/-- A colon that follows an explicit key, or none at all. -/
def bareValue (s : Scanner) : Except Fault Scanner := do
  let s ← if s.inFlow then pure s
    else if !s.keyAllowed then
      throw (s.cursor.fault "mapping values are not allowed in this context")
    else s.rollIndent s.column none .blockMappingStart s.cursor.mark
  pure { s.emitHere .value 1 with keyAllowed := !s.inFlow }

def value (s : Scanner) : Except Fault Scanner :=
  match s.candidate? with
  | some k =>
    if !k.isOpen then s.bareValue
    else if !s.isStale k then s.valueOfKey k
    else if k.required then .error (s.cursor.fault "could not find expected ':'")
    else (s.setCandidate (some { k with isOpen := false })).bareValue
  | none => s.bareValue

def anchor (s : Scanner) (lexeme : String → Lexeme) : Except Fault Scanner := do
  let s ← s.saveCandidate
  let (name, next) ← readAnchor s.cursor
  pure { s.emit (lexeme name) s.cursor.mark next.mark with cursor := next, keyAllowed := false }

def tag (s : Scanner) : Except Fault Scanner := do
  let s ← s.saveCandidate
  let (handle, suffix, next) ← readTag s.cursor
  pure { s.emit (.tag handle suffix) s.cursor.mark next.mark with
    cursor := next, keyAllowed := false }

def blockScalar (s : Scanner) (style : Style) : Except Fault Scanner := do
  let s ← s.dropCandidate
  let (text, comment?, next) ← readBlock (style == .literal) s.indent s.cursor
  let comments := match comment? with
    | some start => { role := .line, owner := s.cursor.mark.index, start } :: s.comments
    | none => s.comments
  pure { s.emit (.scalar style text) s.cursor.mark next.mark with
    cursor := next, keyAllowed := true, comments }

def quotedScalar (s : Scanner) (style : Style) : Except Fault Scanner := do
  let s ← s.saveCandidate
  let (text, next) ← readQuoted (style == .singleQuoted) s.cursor
  pure { s.emit (.scalar style text) s.cursor.mark next.mark with
    cursor := next, keyAllowed := false }

def plainScalar (s : Scanner) : Except Fault Scanner := do
  let s ← s.saveCandidate
  let plain ← readPlain s.inFlow (s.indent + 1) s.cursor
  pure { s.emit (.scalar .plain plain.text) s.cursor.mark plain.stop with
    cursor := plain.cursor, keyAllowed := plain.broken }

def isIndicator (c : Char) : Bool := ("-?:,[]{}#&*!|>\"%@`".toList.contains c) || c == '\''

def startsPlain (s : Scanner) (c : Char) : Bool :=
  let next := s.cursor.ahead? 1
  !(isSpace c || isBreak c || isIndicator c) ||
    (c == '-' && !next.any isSpace) ||
    (!s.inFlow && (c == '?' || c == ':') && !endsWord next)

def token (s : Scanner) (c : Char) : Except Fault Scanner :=
  let wordEnds := endsWord (s.cursor.ahead? 1)
  if c == '[' then s.flowStart .flowSequenceStart
  else if c == '{' then s.flowStart .flowMappingStart
  else if c == ']' then s.flowEnd .flowSequenceEnd
  else if c == '}' then s.flowEnd .flowMappingEnd
  else if c == ',' then s.flowEntry
  else if c == '-' && wordEnds then s.blockEntry
  else if c == '?' && (s.inFlow || wordEnds) then s.explicitKey
  else if c == ':' && (s.inFlow || wordEnds) then s.value
  else if c == '*' then s.anchor .alias
  else if c == '&' then s.anchor .anchor
  else if c == '!' then s.tag
  else if c == '|' && !s.inFlow then s.blockScalar .literal
  else if c == '>' && !s.inFlow then s.blockScalar .folded
  else if c == '\'' then s.quotedScalar .singleQuoted
  else if c == '"' then s.quotedScalar .doubleQuoted
  else if s.startsPlain c then s.plainScalar
  else .error (s.cursor.fault "found character that cannot start any token")

/-- The token that a comment behind one that starts with `c` goes with. A colon and a comma leave
it to the token before. -/
def commentOwner (s : Scanner) (c : Char) : Nat :=
  let here := s.cursor.mark.index
  let leaves := c == if s.inFlow then ',' else ':'
  if leaves then (s.lastToken?.map (·.start.index)).getD here else here

/-- A comment may follow a token on its line; behind `-` it belongs to what comes next. -/
def afterToken (s : Scanner) (owner : Nat) : Scanner :=
  if s.lastToken?.any (·.lexeme == .blockEntry) then s else s.passLineComment owner

/-- Reads the next token, and the block ends in front of it, which stand right behind the token
before or at a comment. Behind the end of the text there is only the end again. -/
def next (s : Scanner) : Except Fault Scanner :=
  let behind := s.cursor.mark
  let s := toNextToken behind.index s.cursor.fuel s
  let s := s.unrollIndent s.column behind
  match s.cursor.peek? with
  | none => s.streamEnd
  | some c =>
    if s.column == 0 && c == '%' then s.directive
    else if s.cursor.atMarker '-' then s.documentMarker .documentStart
    else if s.cursor.atMarker '.' then s.documentMarker .documentEnd
    else (s.token c).map (·.afterToken (s.commentOwner c))

def watchedPlace? (s : Scanner) : Option Nat :=
  (s.watched.lookup s.given).map fun level => s.keys.length - 1 - level

/-- Whether the first waiting token can be handed out: no candidate that it depends on can become a
key any more, and two more tokens wait behind it. -/
def isReady (s : Scanner) : Bool :=
  2 < s.row.waiting.length &&
    match s.watchedPlace?.bind fun n => s.keys.getD n none with
    | some k => !k.isOpen || (!k.required && s.isStale k)
    | none => true

/-- Hands out the first waiting token. A candidate that it depends on is given up. -/
def take? (s : Scanner) : Option (Token × Scanner) :=
  match s.row.take? with
  | some (t, row) =>
    let comments := Comment.release t.start.index (t.lexeme == .blockEnd) s.comments
    let keys := match s.watchedPlace? with
      | some n => s.keys.modify n (·.map fun k => { k with isOpen := false })
      | none => s.keys
    let watched := s.watched.filter (s.given < ·.1)
    some (t, { s with row, keys, watched, given := s.given + 1, comments })
  | none => none

end Scanner

end Lanewise.Yaml
