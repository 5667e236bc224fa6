import Lanewise.Yaml.Folding

/-!
# Plain scalars

A scalar without quotes goes on over spaces and line breaks until a comment, a mapping value, an
indicator of the flow collection around it or a line that is indented too little.
-/

namespace Lanewise.Yaml

structure PlainText where
  text : String
  stop : Mark
  cursor : Cursor
  broken : Bool

def endsFlowScalar (c : Char) : Bool :=
  c == ',' || c == '?' || c == '[' || c == ']' || c == '{' || c == '}'

def endsPlainAt (inFlow : Bool) (c : Cursor) : Bool :=
  match c.peek? with
  | none => true
  | some x => isSpace x || isBreak x || (x == ':' && endsWord (c.ahead? 1)) ||
      (inFlow && endsFlowScalar x)

def plainWord (inFlow : Bool) : Nat → Folding → Cursor → Mark → Folding × Cursor × Mark
  | 0, f, c, stop => (f, c, stop)
  | fuel + 1, f, c, stop =>
    if endsPlainAt inFlow c then (f, c, stop)
    else
      let f := if f.broken || !f.blanks.isEmpty then f.join else f
      let next := c.advance
      plainWord inFlow fuel (f.push (c.peek?.getD ' ')) next next.mark

/-- Reads the blanks and line breaks between words. A tab may not stand for indentation. -/
def plainGap (indent : Int) : Nat → Folding → Cursor → Except Fault (Folding × Cursor)
  | 0, f, c => .ok (f, c)
  | fuel + 1, f, c =>
    match c.peek? with
    | none => .ok (f, c)
    | some x =>
      if isSpace x then
        if f.broken && (c.column : Int) < indent && x == '\t' then
          .error (c.fault "found a tab character that violates indentation")
        else plainGap indent fuel (f.blank x) c.advance
      else if isBreak x then
        let (form, next) := c.takeBreak
        plainGap indent fuel (f.lineBreak form) next
      else .ok (f, c)

def plainFrom (inFlow : Bool) (indent : Int) :
    Nat → Folding → Cursor → Mark → Except Fault PlainText
  | 0, f, c, stop => .ok ⟨f.result, stop, c, f.broken⟩
  | fuel + 1, f, c, stop =>
    if c.atDocumentMarker || c.peek? == some '#' then .ok ⟨f.result, stop, c, f.broken⟩
    else
      let (f, c, stop) := plainWord inFlow c.fuel f c stop
      match c.peek? with
      | none => .ok ⟨f.result, stop, c, f.broken⟩
      | some x =>
        if isSpace x || isBreak x then do
          let (f, c) ← plainGap indent c.fuel f c
          if !inFlow && (c.column : Int) < indent then .ok ⟨f.result, stop, c, f.broken⟩
          else plainFrom inFlow indent fuel f c stop
        else .ok ⟨f.result, stop, c, f.broken⟩

/-- Reads a plain scalar whose further lines are indented by at least `indent`. -/
def readPlain (inFlow : Bool) (indent : Int) (c : Cursor) : Except Fault PlainText :=
  plainFrom inFlow indent c.fuel {} c c.mark

end Lanewise.Yaml
