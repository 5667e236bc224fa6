import Lanewise.Yaml.Cursor

/-!
# Block scalars

A literal scalar keeps its line breaks and a folded one joins lines. The indentation is given in
the header or is that of the first line with text; the header also says what becomes of the line
breaks at the end.
-/

namespace Lanewise.Yaml

/-- What becomes of the line breaks at the end: none, one or all are kept. -/
inductive Chomping
  | strip | clip | keep
  deriving DecidableEq, Repr

structure BlockHeader where
  chomping : Chomping := .clip
  increment : Option Nat := none
  comment : Option Mark := none

def chompingOf? (c : Option Char) : Option Chomping :=
  match c with
  | some '+' => some .keep
  | some '-' => some .strip
  | _ => none

def incrementAt (c : Cursor) : Except Fault (Option Nat × Cursor) :=
  match c.peek? with
  | some x =>
    if x == '0' then .error (c.fault "found an indentation indicator equal to 0")
    else if x.isDigit then .ok (some (x.toNat - '0'.toNat), c.advance)
    else .ok (none, c)
  | none => .ok (none, c)

def readBlockHeader (c : Cursor) : Except Fault (BlockHeader × Cursor) := do
  let (header, c) ← match chompingOf? c.peek? with
    | some chomping => do
      let (increment, c) ← incrementAt c.advance
      pure (({ chomping, increment } : BlockHeader), c)
    | none => do
      let (increment, c) ← incrementAt c
      match increment, chompingOf? c.peek? with
      | some _, some chomping => pure ({ chomping, increment }, c.advance)
      | _, _ => pure ({ increment }, c)
  let c := c.passSpaces
  let (header, c) :=
    if c.peek? == some '#' then ({ header with comment := some c.mark }, c.passLine)
    else (header, c)
  if endsLine c.peek? then .ok (header, c.passBreak)
  else .error (c.fault "did not find expected comment or line break")

/-- Passes the indentation of the coming lines and the line breaks of empty ones, which are
returned last first. `indent` is zero as long as it is not known; `widest` is the widest
indentation seen. -/
def blockBreaks (indent : Nat) : Nat → Nat → List Char → Cursor →
    Except Fault (Nat × List Char × Cursor)
  | 0, widest, breaks, c => .ok (widest, breaks, c)
  | fuel + 1, widest, breaks, c =>
    let c := c.passWhile (· == ' ') (if indent == 0 then c.fuel else indent - c.column)
    let widest := max widest c.column
    match c.peek? with
    | some x =>
      if x == '\t' && (indent == 0 || c.column < indent) then
        .error (c.fault "found a tab character where an indentation space is expected")
      else if isBreak x then
        let (form, next) := c.takeBreak
        blockBreaks indent fuel widest (form ++ breaks) next
      else .ok (widest, breaks, c)
    | none => .ok (widest, breaks, c)

def lineText (c : Cursor) : List Char := c.rest.takeWhile (fun x => !isBreak x)

/-- Reads the lines of a block. `text` and `breaks` are last first; `lastBreak` is the break of the
line before and `lastIndented` tells whether that line started with a blank. -/
def blockLines (isLiteral : Bool) (indent : Nat) : Nat → (text lastBreak breaks : List Char) →
    (lastIndented : Bool) → Cursor → Except Fault (List Char × List Char × List Char × Cursor)
  | 0, text, lastBreak, breaks, _, c => .ok (text, lastBreak, breaks, c)
  | fuel + 1, text, lastBreak, breaks, lastIndented, c =>
    match c.peek? with
    | none => .ok (text, lastBreak, breaks, c)
    | some x =>
      if c.column != indent then .ok (text, lastBreak, breaks, c)
      else do
        let indented := isSpace x
        -- Two lines of text that are both not indented further are joined by a space.
        let text :=
          if !isLiteral && !lastIndented && !indented && lastBreak == ['\n'] then
            if breaks.isEmpty then ' ' :: text else text
          else lastBreak ++ text
        let text := (lineText c).reverse ++ (breaks ++ text)
        let (lastBreak, next) := c.passLine.takeBreak
        let (_, breaks, next) ← blockBreaks indent next.fuel 0 [] next
        blockLines isLiteral indent fuel text lastBreak breaks indented next

/-- Reads a block scalar inside a node that is indented by `parent`; the cursor stands on the
indicator. Gives the text and the place of the comment in the header. -/
def readBlock (isLiteral : Bool) (parent : Int) (c : Cursor) :
    Except Fault (String × Option Mark × Cursor) := do
  let (header, c) ← readBlockHeader c.advance
  let given := match header.increment with
    | some n => if 0 ≤ parent then parent.toNat + n else n
    | none => 0
  let (widest, breaks, c) ← blockBreaks given c.fuel 0 [] c
  -- Text has to be indented further than the node around it.
  let indent := if given == 0 then max (max widest (parent + 1).toNat) 1 else given
  let (text, lastBreak, breaks, c) ← blockLines isLiteral indent c.fuel [] [] breaks false c
  let text := if header.chomping == .strip then text else lastBreak ++ text
  let text := if header.chomping == .keep then breaks ++ text else text
  .ok (String.ofList text.reverse, header.comment, c)

end Lanewise.Yaml
