import Lanewise.Yaml.Cursor

/-!
# Comments

Comments have no meaning, but they have a say in where a block ends: a block whose indentation a
comment behind it shares ends at that comment. So comments are kept until the token that they go
with is handed out.

A comment on a line of its own goes with the token behind it or with the one before. It goes with
the one before if it stands right below it and an empty line follows, if the text goes on further
left than the block, or if a flow collection ends behind it.
-/

namespace Lanewise.Yaml

inductive CommentRole
  | head
  | line
  | foot
  deriving DecidableEq, Repr

structure Comment where
  role : CommentRole
  /-- Characters before the token the comment goes with. -/
  owner : Nat
  /-- The first character. Its column is counted from one in a comment on lines of its own. -/
  start : Mark
  /-- Characters before the gap between tokens, or the part of it, that the comment is in. Only
  comments on lines of their own are taken to be in a gap. -/
  gap : Nat := 0
  stop : Nat := 0
  deriving DecidableEq, Repr

namespace Comment

/-- The comments that are left when a token is handed out, newest first. The end of a block leaves
those that go with the token behind it. -/
def release (index : Nat) (isBlockEnd : Bool) (comments : List Comment) : List Comment :=
  (comments.reverse.dropWhile fun c =>
    c.owner ≤ index && !(isBlockEnd && c.role == .head)).reverse

/-- Where a block of the given indentation ends: at the oldest comment that shares it, or else at
`mark`. Only comments that end at `index` or later count, and those in a row with them. The
comments are newest first. -/
def endOfBlock (indent : Int) : (comments : List Comment) → (index : Nat) → Mark → Mark
  | [], _, mark => mark
  | c :: older, index, mark =>
    if c.stop < index then mark
    else endOfBlock indent older c.gap (if c.start.column == indent + 1 then c.start else mark)

end Comment

structure CommentPlace where
  inFlow : Bool
  indent : Nat
  footLine : Nat
  afterColon : Bool

structure CommentSearch where
  cursor : Cursor
  /-- How many characters behind the cursor were looked at, and what follows them. -/
  seen : Nat := 0
  ahead : List Char
  line : Nat
  column : Nat
  /-- Newest first. -/
  found : List Comment := []
  /-- Whether there is a comment that is not among those found because it may go on. -/
  isOpen : Bool := false
  start : Mark := ⟨0, 0, 0⟩
  gap : Nat
  owner : Nat
  afterEmpty : Bool := false
  unbroken : Bool

namespace CommentSearch

/-- No comment is looked for behind more blanks and line breaks than this. -/
def maxGap : Nat := 512

def index (s : CommentSearch) : Nat := s.cursor.mark.index + s.seen

def closeFoot (s : CommentSearch) (owner : Nat) : CommentSearch :=
  { s with
    found := { role := .foot, owner, start := s.start, gap := s.gap, stop := s.index } :: s.found
    gap := s.index
    owner := s.index
    isOpen := false }

def atLineEnd (p : CommentPlace) (closes : Bool) (s : CommentSearch) : CommentSearch :=
  let isLeft := s.start.column - 1 < p.indent
  let isFoot := closes || (!s.afterEmpty && s.unbroken &&
    ((s.start.line == p.footLine && !p.afterColon) || isLeft))
  if s.isOpen && isFoot then s.closeFoot (if isLeft then s.start.index else s.owner) else s

def atText (p : CommentPlace) (s : CommentSearch) : CommentSearch :=
  if s.isOpen && s.column - 1 < p.indent && s.column != s.start.column then s.closeFoot s.owner
  else s

/-- What is to be seen behind a line break. Nothing is told apart behind those that take more than
one byte. -/
def behindBreak : List Char → List Char
  | [] => []
  | x :: rest => if x == '\n' || x == '\r' then rest else ['\ufffd']

def passGap : Nat → Cursor → Cursor
  | 0, c => c
  | n + 1, c =>
    if c.peek? == some '#' then c
    else passGap n (if c.peek?.any isBreak then c.passBreak else c.advance)

def pass (s : CommentSearch) : CommentSearch :=
  let c := (passGap s.seen s.cursor).passLine
  { s with
    cursor := c
    seen := 1
    ahead := behindBreak c.rest
    line := c.mark.line
    column := 0
    start := if s.isOpen then s.start else ⟨s.index, s.line, s.column⟩
    isOpen := true
    afterEmpty := false }

def look (p : CommentPlace) : Nat → CommentSearch → CommentSearch
  | 0, s => s
  | fuel + 1, s =>
    if maxGap ≤ s.seen then s
    else
      let s := { s with column := s.column + 1 }
      match s.ahead with
      | [] => s.atLineEnd p false
      | x :: rest =>
        if isSpace x then look p fuel { s with seen := s.seen + 1, ahead := rest }
        else if p.inFlow && (x == ']' || x == '}') then s.atLineEnd p true
        else if isBreak x then
          look p fuel { s.atLineEnd p false with
            seen := s.seen + 1
            ahead := behindBreak s.ahead
            line := s.line + 1
            column := 0
            afterEmpty := true
            unbroken := false }
        else if x == '#' then look p fuel (s.atText p).pass
        else s.atText p

/-- The comments that were found. One that is still open goes with the token to come. -/
def result (s : CommentSearch) : List Comment :=
  if s.isOpen then
    let stop := s.index - 1
    { role := .head, owner := s.start.index, start := s.start, gap := s.gap, stop } :: s.found
  else s.found

end CommentSearch

/-- The comments that follow each other from the cursor on, newest first, and the end of the last
one. The gap they are in starts at `gap`, and the token before it at `owner`. -/
def readComments (p : CommentPlace) (gap owner : Nat) (c : Cursor) : List Comment × Cursor :=
  let s := CommentSearch.look p (2 * c.fuel)
    { cursor := c, ahead := c.rest, line := c.mark.line, column := c.mark.column, gap, owner,
      unbroken := c.breaks ≤ 1 }
  (s.result, s.cursor)

end Lanewise.Yaml
