import Lanewise.Yaml.Scanner

/-!
# The tokens of a text

Only the first document of a text counts, so a fault far behind it must not matter. The tokens of a
text with a fault are those that could be handed out before the fault was met.
-/

namespace Lanewise.Yaml

structure ReadToken extends Token where
  /-- The start of the token that stands in this one's cell when the next one is handed out. -/
  vacated : Mark
  deriving DecidableEq, Repr, Inhabited

structure Tokens where
  tokens : List ReadToken
  fault : Option Fault

namespace Tokens

/-- Adds the token handed out last, for which the row shows what stands in its cell by now. The
tokens are newest first. -/
def addLast (row : Row Token) (last? : Option Token) (tokens : List ReadToken) : List ReadToken :=
  match last? with
  | some t => ⟨t, (row.vacated?.getD t).start⟩ :: tokens
  | none => tokens

def scanFrom : Nat → Scanner → Option Token → List ReadToken → Tokens
  | 0, s, last?, tokens =>
    ⟨(addLast s.row last? tokens).reverse, some (s.cursor.fault "found unexpected end of stream")⟩
  | fuel + 1, s, last?, tokens =>
    match if s.isReady then s.take? else none with
    | some (t, next) =>
      let tokens := addLast s.row last? tokens
      if t.lexeme == .streamEnd then ⟨(⟨t, t.start⟩ :: tokens).reverse, none⟩
      else scanFrom fuel next (some t) tokens
    | none =>
      match s.next with
      | .ok s => scanFrom fuel s last? tokens
      | .error fault => ⟨(addLast s.row last? tokens).reverse, some fault⟩

def isAllowed (c : Char) : Bool :=
  let n := c.toNat
  n == 0x09 || n == 0x0a || n == 0x0d || (0x20 ≤ n && n ≤ 0x7e) || n == 0x85 ||
    (0xa0 ≤ n && n ≤ 0xd7ff) || (0xe000 ≤ n && n ≤ 0xfffd) || 0x10000 ≤ n

/-- The tokens of a text. A byte order mark in front of it does not count. -/
def ofText (text : String) : Tokens :=
  let cs := match text.toList with
    | '\ufeff' :: rest => rest
    | cs => cs
  if cs.all isAllowed then
    let c := Cursor.ofText cs
    -- A step reads a token or hands one out, and a character makes at most four tokens.
    scanFrom (9 * c.fuel + 20) { cursor := c } none []
  else ⟨[], some ⟨0, "control characters are not allowed"⟩⟩

end Tokens

end Lanewise.Yaml
