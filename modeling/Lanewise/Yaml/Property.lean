import Lanewise.Yaml.Scalar.Quoted
import Lanewise.Yaml.Token

/-!
# Anchors, tags and directives

What can stand in front of a node, and the lines that can stand in front of a document.
-/

namespace Lanewise.Yaml

def endsAnchor (c : Option Char) : Bool :=
  endsWord c || c.any fun x =>
    x == '?' || x == ':' || x == ',' || x == ']' || x == '}' || x == '%' || x == '@' || x == '`'

def readAnchor (c : Cursor) : Except Fault (String × Cursor) :=
  let name := c.advance.rest.takeWhile isWordChar
  let next := c.advance.advanceBy name.length
  if name.isEmpty || !endsAnchor next.peek? then
    .error (next.fault "did not find expected alphabetic or numeric character")
  else .ok (String.ofList name, next)

def isTagChar (c : Char) : Bool :=
  isWordChar c || (";/?:@&=+$,.!~*()[]".toList.contains c) || c == '\''

def escapedByte? (cs : List Char) : Option Nat :=
  match cs with
  | '%' :: cs => hexNumber? 2 0 cs
  | _ => none

def continuedChar? : Nat → Nat → List Char → Option Nat
  | 0, value, _ => some value
  | n + 1, value, cs => do
    let byte ← escapedByte? cs
    if byte / 64 == 2 then continuedChar? n (value * 64 + byte % 64) (cs.drop 3) else none

/-- The character that escapes spell and the number of escapes. -/
def escapedChar? (cs : List Char) : Option (Char × Nat) := do
  let first ← escapedByte? cs
  let (more, value) ←
    if first < 0x80 then some (0, first)
    else if first / 32 == 6 then some (1, first % 32)
    else if first / 16 == 14 then some (2, first % 16)
    else if first / 8 == 30 then some (3, first % 8)
    else none
  let code ← continuedChar? more value (cs.drop 3)
  some (Char.ofNat code, more + 1)

def readTagChars : Nat → List Char → Cursor → Except Fault (List Char × Cursor)
  | 0, text, c => .ok (text, c)
  | fuel + 1, text, c =>
    match c.peek? with
    | none => .ok (text, c)
    | some x =>
      if x == '%' then
        match escapedChar? c.rest with
        | some (y, n) => readTagChars fuel (y :: text) (c.advanceBy (3 * n))
        | none => .error (c.fault "did not find URI escaped octet")
      else if isTagChar x then readTagChars fuel (x :: text) c.advance
      else .ok (text, c)

def readTagRest (head : List Char) (c : Cursor) : Except Fault (List Char × Cursor) := do
  let (text, next) ← readTagChars c.fuel [] c
  if head.isEmpty && text.isEmpty then .error (c.fault "did not find expected tag URI")
  else .ok (head.drop 1 ++ text.reverse, next)

def readHandle (c : Cursor) : List Char × Cursor :=
  let word := c.advance.rest.takeWhile isWordChar
  let next := c.advance.advanceBy word.length
  if next.peek? == some '!' then ('!' :: word ++ ['!'], next.advance) else ('!' :: word, next)

/-- Reads a tag as a handle and what follows it; the cursor stands on the `!`. A tag between `<`
and `>` and the tag `!` alone have an empty handle. -/
def readTag (c : Cursor) : Except Fault (String × String × Cursor) := do
  let (handle, suffix, next) ←
    if c.ahead? 1 == some '<' then do
      let (text, next) ← readTagRest [] (c.advanceBy 2)
      if next.peek? == some '>' then pure ([], text, next.advance)
      else throw (next.fault "did not find the expected '>'")
    else do
      let (handle, next) := readHandle c
      if 1 < handle.length && handle.getLast? == some '!' then
        let (text, next) ← readTagRest [] next
        pure (handle, text, next)
      else
        let (text, next) ← readTagRest handle next
        if text.isEmpty then pure ([], handle, next) else pure (['!'], text, next)
  if endsWord next.peek? then .ok (String.ofList handle, String.ofList suffix, next)
  else .error (next.fault "did not find expected whitespace or line break")

def readVersionNumber (c : Cursor) : Except Fault (Nat × Cursor) :=
  let digits := c.rest.takeWhile Char.isDigit
  if digits.isEmpty then .error (c.fault "did not find expected version number")
  else if 9 < digits.length then .error (c.fault "found extremely long version number")
  else .ok (digits.foldl (fun n x => 10 * n + (x.toNat - '0'.toNat)) 0, c.advanceBy digits.length)

def readVersion (c : Cursor) : Except Fault (Lexeme × Cursor) := do
  let (major, c) ← readVersionNumber c.passSpaces
  if c.peek? == some '.' then
    let (minor, c) ← readVersionNumber c.advance
    pure (.versionDirective major minor, c)
  else throw (c.fault "did not find expected digit or '.' character")

def readTagDirective (c : Cursor) : Except Fault (Lexeme × Cursor) := do
  let c := c.passSpaces
  if c.peek? != some '!' then throw (c.fault "did not find expected '!'")
  let (handle, c) := readHandle c
  if handle != ['!'] && handle.getLast? != some '!' then
    throw (c.fault "did not find expected '!'")
  if !c.peek?.any isSpace then throw (c.fault "did not find expected whitespace")
  let (leader, c) ← readTagRest [] c.passSpaces
  if !endsWord c.peek? then throw (c.fault "did not find expected whitespace or line break")
  pure (.tagDirective (String.ofList handle) (String.ofList leader), c)

def readDirective (c : Cursor) : Except Fault (Lexeme × Mark × Cursor) := do
  let name := c.advance.rest.takeWhile isWordChar
  let next := c.advance.advanceBy name.length
  if name.isEmpty then throw (next.fault "could not find expected directive name")
  if !endsWord next.peek? then throw (next.fault "found unexpected non-alphabetical character")
  let (lexeme, next) ←
    if name == "YAML".toList then readVersion next
    else if name == "TAG".toList then readTagDirective next
    else throw (next.fault "found unknown directive name")
  let stop := next.mark
  let next := next.passSpaces
  let next := if next.peek? == some '#' then next.passLine else next
  if endsLine next.peek? then pure (lexeme, stop, next.passBreak)
  else throw (next.fault "did not find expected comment or line break")

end Lanewise.Yaml
