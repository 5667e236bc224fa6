import Lanewise.Yaml.Folding

/-!
# Quoted scalars

Between single quotes a quote is doubled and nothing else is special. Between double quotes a
backslash starts an escape. Line breaks fold in both.
-/

namespace Lanewise.Yaml

def hexValue? (c : Char) : Option Nat :=
  if '0' ≤ c && c ≤ '9' then some (c.toNat - '0'.toNat)
  else if 'a' ≤ c && c ≤ 'f' then some (c.toNat - 'a'.toNat + 10)
  else if 'A' ≤ c && c ≤ 'F' then some (c.toNat - 'A'.toNat + 10)
  else none

def hexNumber? : Nat → Nat → List Char → Option Nat
  | 0, value, _ => some value
  | _ + 1, _, [] => none
  | n + 1, value, c :: cs => do hexNumber? n (16 * value + (← hexValue? c)) cs

def simpleEscape? (c : Char) : Option Char :=
  match c with
  | '0' => some '\x00'
  | 'a' => some '\x07'
  | 'b' => some '\x08'
  | 't' | '\t' => some '\t'
  | 'n' => some '\n'
  | 'v' => some '\x0b'
  | 'f' => some '\x0c'
  | 'r' => some '\r'
  | 'e' => some '\x1b'
  | ' ' => some ' '
  | '"' => some '"'
  | '\'' => some '\''
  | '\\' => some '\\'
  | 'N' => some '\u0085'
  | '_' => some '\u00a0'
  | 'L' => some '\u2028'
  | 'P' => some '\u2029'
  | _ => none

def escapeDigits? (c : Char) : Option Nat :=
  match c with
  | 'x' => some 2
  | 'u' => some 4
  | 'U' => some 8
  | _ => none

def readEscape (c : Cursor) : Except Fault (Char × Cursor) :=
  match c.ahead? 1 with
  | none => .error (c.fault "found unknown escape character")
  | some letter =>
    match simpleEscape? letter, escapeDigits? letter with
    | some x, _ => .ok (x, c.advanceBy 2)
    | none, some digits =>
      match hexNumber? digits 0 (c.rest.drop 2) with
      | none => .error (c.fault "did not find expected hexdecimal number")
      | some value =>
        if (0xd800 ≤ value && value ≤ 0xdfff) || 0x10ffff < value then
          .error (c.fault "found invalid Unicode character escape code")
        else .ok (Char.ofNat value, c.advanceBy (2 + digits))
    | none, none => .error (c.fault "found unknown escape character")

def quotedWord (single : Bool) : Nat → Folding → Cursor → Except Fault (Folding × Cursor)
  | 0, f, c => .ok (f, c)
  | fuel + 1, f, c =>
    match c.peek? with
    | none => .ok (f, c)
    | some x =>
      if isSpace x || isBreak x then .ok (f, c)
      else if single then
        if x == '\'' then
          if c.ahead? 1 == some '\'' then quotedWord single fuel (f.push x) (c.advanceBy 2)
          else .ok (f, c)
        else quotedWord single fuel (f.push x) c.advance
      else if x == '"' then .ok (f, c)
      else if x == '\\' then
        if (c.ahead? 1).any isBreak then .ok (f.escapedBreak, c.advance.passBreak)
        else do
          let (y, next) ← readEscape c
          quotedWord single fuel (f.push y) next
      else quotedWord single fuel (f.push x) c.advance

def quotedGap : Nat → Folding → Cursor → Folding × Cursor
  | 0, f, c => (f, c)
  | fuel + 1, f, c =>
    match c.peek? with
    | none => (f, c)
    | some x =>
      if isSpace x then quotedGap fuel (f.blank x) c.advance
      else if isBreak x then
        let (form, next) := c.takeBreak
        quotedGap fuel (f.lineBreak form) next
      else (f, c)

def quotedFrom (single : Bool) : Nat → Folding → Cursor → Except Fault (String × Cursor)
  | 0, _, c => .error (c.fault "found unexpected end of stream")
  | fuel + 1, f, c =>
    if c.atDocumentMarker then .error (c.fault "found unexpected document indicator")
    else if c.peek?.isNone then .error (c.fault "found unexpected end of stream")
    else do
      let (f, c) ← quotedWord single c.fuel f c
      if !f.broken && c.peek? == some (if single then '\'' else '"') then
        .ok (f.result, c.advance)
      else
        let (f, c) := quotedGap c.fuel f c
        quotedFrom single fuel f.join c

def readQuoted (single : Bool) (c : Cursor) : Except Fault (String × Cursor) :=
  quotedFrom single c.fuel {} c.advance

end Lanewise.Yaml
