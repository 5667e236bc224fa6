import Lanewise.Yaml.Node
import Lanewise.Yaml.Tokens

/-!
# From tokens to nodes

The first document of a text as a tree. What follows it is not read, apart from the token that
ends it.
-/

namespace Lanewise.Yaml

/-- An anchor is open while the node behind it is being read. -/
structure Anchor where
  name : String
  node : Option Node

structure Reader where
  tokens : List ReadToken
  fault : Option Fault
  /-- Newest first. -/
  anchors : List Anchor := []
  handles : List (String × String) := []

abbrev ReadM := StateT Reader (Except Fault)

def Mark.pos (m : Mark) : Pos := ⟨m.line + 1, m.column + 1⟩

def longTagHead : String := "tag:yaml.org,2002:"

def shortTag (tag : String) : String :=
  if longTagHead.toList.isPrefixOf tag.toList then
    "!!" ++ String.ofList (tag.toList.drop longTagHead.length)
  else tag

namespace ReadM

def peek : ReadM ReadToken := do
  let r ← get
  match r.tokens, r.fault with
  | t :: _, _ => pure t
  | [], some fault => throw fault
  | [], none => throw ⟨0, "did not find expected node content"⟩

/-- Passes the next token. The end of the stream stays. -/
def skip : ReadM Unit :=
  modify fun r =>
    match r.tokens with
    | t :: rest => if t.lexeme == .streamEnd then r else { r with tokens := rest }
    | [] => r

def fail {α : Type} (t : ReadToken) (problem : String) : ReadM α := throw ⟨t.start.line, problem⟩

def openAnchor (name : String) : ReadM Nat := do
  let r ← get
  set { r with anchors := ⟨name, none⟩ :: r.anchors }
  pure r.anchors.length

def closeAnchor (number : Nat) (node : Node) : ReadM Unit :=
  modify fun r =>
    { r with anchors := r.anchors.modify (r.anchors.length - 1 - number) fun a =>
        { a with node := some node } }

def aliased (t : ReadToken) (name : String) : ReadM Node := do
  let r ← get
  match r.anchors.find? (·.name == name) with
  | some ⟨_, some node⟩ => pure node
  | some ⟨_, none⟩ => fail t ("anchor '" ++ name ++ "' value contains itself")
  | none => fail t ("unknown anchor '" ++ name ++ "' referenced")

def resolveTag (t : ReadToken) (handle suffix : String) : ReadM String := do
  if handle == "" then pure suffix
  else
    let r ← get
    match r.handles.find? (·.1 == handle) with
    | some (_, leader) => pure (leader ++ suffix)
    | none => fail t "found undefined tag handle"

end ReadM

structure Properties where
  start : Mark
  anchor : Option String := none
  tag : String := ""

namespace Properties

def isPresent (p : Properties) : Bool := p.anchor.isSome || p.tag != ""

/-- The tag to use where none is written. The tag `!` leaves the choice open. -/
def tagOr (p : Properties) (tag : String) : String :=
  if p.tag == "" || p.tag == "!" then tag else p.tag

def scalar (p : Properties) (style : Style) (text : String) : Node :=
  let byText :=
    if style != .plain then "!!str"
    else if text == "<<" then "!!merge"
    else (Value.ofText true text).tag
  .scalar p.start.pos (p.tagOr byText) style text

end Properties

def emptyNode (m : Mark) : Node := Properties.scalar { start := m } .plain ""

namespace ReadM

def properties : ReadM Properties := do
  let t ← peek
  match t.lexeme with
  | .anchor name =>
    skip
    let u ← peek
    match u.lexeme with
    | .tag handle suffix =>
      skip
      let tag ← resolveTag u handle suffix
      pure { start := t.start, anchor := some name, tag := shortTag tag }
    | _ => pure { start := t.start, anchor := some name }
  | .tag handle suffix =>
    skip
    let u ← peek
    match u.lexeme with
    | .anchor name =>
      skip
      let tag ← resolveTag t handle suffix
      pure { start := t.start, anchor := some name, tag := shortTag tag }
    | _ =>
      let tag ← resolveTag t handle suffix
      pure { start := t.start, tag := shortTag tag }
  | _ => pure { start := t.start }

def anchored (p : Properties) (read : ReadM Node) : ReadM Node := do
  match p.anchor with
  | none => read
  | some name =>
    let number ← openAnchor name
    let node ← read
    closeAnchor number node
    pure node

def endsBlockEntry (l : Lexeme) : Bool := l == .key || l == .value || l == .blockEnd

mutual
/-- Reads a node. Block collections are only allowed if `inBlock`, and a sequence that is not
indented only if `bare`. -/
def node (inBlock bare : Bool) : Nat → ReadM Node
  | 0 => do fail (← peek) "exceeded max depth"
  | fuel + 1 => do
    let t ← peek
    match t.lexeme with
    | .alias name => do
      -- The place of an alias is its own; what it holds is the node it names.
      let target ← aliased t name
      skip
      pure (.alias t.start.pos name target)
    | _ =>
      let p ← properties
      let u ← peek
      anchored p (content inBlock bare p u fuel)
def content (inBlock bare : Bool) (p : Properties) (t : ReadToken) : Nat → ReadM Node
  | 0 => fail t "exceeded max depth"
  | fuel + 1 => do
    let seqTag := p.tagOr "!!seq"
    let mapTag := p.tagOr "!!map"
    match t.lexeme with
    | .scalar style text => do
      skip
      pure (p.scalar style text)
    | .flowSequenceStart => do
      skip
      pure (.sequence p.start.pos seqTag (← flowItems true fuel))
    | .flowMappingStart => do
      skip
      pure (.mapping p.start.pos mapTag (← flowFields true fuel))
    | lexeme =>
      if bare && lexeme == .blockEntry then
        pure (.sequence p.start.pos seqTag (← bareItems fuel))
      else if inBlock && lexeme == .blockSequenceStart then do
        skip
        pure (.sequence p.start.pos seqTag (← blockItems fuel))
      else if inBlock && lexeme == .blockMappingStart then do
        skip
        pure (.mapping p.start.pos mapTag (← blockFields fuel))
      -- A property with nothing behind it makes an empty scalar at its own place.
      else if p.isPresent then pure (p.scalar .plain "")
      else fail t "did not find expected node content"
def blockItems : Nat → ReadM (List Node)
  | 0 => do fail (← peek) "exceeded max depth"
  | fuel + 1 => do
    let t ← peek
    match t.lexeme with
    | .blockEntry => do
      skip
      let u ← peek
      let item ← if u.lexeme == .blockEntry || u.lexeme == .blockEnd then pure (emptyNode t.stop)
        else node true false fuel
      pure (item :: (← blockItems fuel))
    | .blockEnd => do
      skip
      pure []
    | _ => fail t "did not find expected '-' indicator"
def bareItems : Nat → ReadM (List Node)
  | 0 => do fail (← peek) "exceeded max depth"
  | fuel + 1 => do
    let t ← peek
    match t.lexeme with
    | .blockEntry => do
      skip
      let u ← peek
      let item ← if u.lexeme == .blockEntry || endsBlockEntry u.lexeme then
          pure (emptyNode t.stop)
        else node true false fuel
      pure (item :: (← bareItems fuel))
    | _ => pure []
def blockFields : Nat → ReadM (List (Node × Node))
  | 0 => do fail (← peek) "exceeded max depth"
  | fuel + 1 => do
    let t ← peek
    match t.lexeme with
    | .key => do
      skip
      let u ← peek
      let key ← if endsBlockEntry u.lexeme then pure (emptyNode t.stop) else node true true fuel
      let value ← blockValue fuel
      pure ((key, value) :: (← blockFields fuel))
    | .blockEnd => do
      skip
      pure []
    | _ => fail t "did not find expected key"
def blockValue : Nat → ReadM Node
  | 0 => do fail (← peek) "exceeded max depth"
  | fuel + 1 => do
    let t ← peek
    match t.lexeme with
    | .value => do
      skip
      let u ← peek
      if endsBlockEntry u.lexeme then pure (emptyNode t.stop) else node true true fuel
    | _ => pure (emptyNode t.start)
/-- The entries of a flow sequence up to its bracket. A pair is a mapping of one field. -/
def flowItems (isFirst : Bool) : Nat → ReadM (List Node)
  | 0 => do fail (← peek) "exceeded max depth"
  | fuel + 1 => do
    let t ← peek
    match t.lexeme with
    | .flowSequenceEnd => do
      skip
      pure []
    | _ =>
      if !isFirst then
        if t.lexeme == .flowEntry then skip else fail t "did not find expected ',' or ']'"
      let u ← peek
      match u.lexeme with
      | .flowSequenceEnd => do
        skip
        pure []
      | .key => do
        skip
        let key ← flowPairKey fuel
        let value ← flowPairValue fuel
        pure (.mapping u.start.pos "!!map" [(key, value)] :: (← flowItems false fuel))
      | _ => do
        let item ← node false false fuel
        pure (item :: (← flowItems false fuel))
/-- The key of a pair. A missing key takes the place of the token behind it. -/
def flowPairKey : Nat → ReadM Node
  | 0 => do fail (← peek) "exceeded max depth"
  | fuel + 1 => do
    let t ← peek
    if t.lexeme == .value || t.lexeme == .flowEntry || t.lexeme == .flowSequenceEnd then
      -- The token that stands in place of the key is passed with it.
      skip
      pure (emptyNode t.stop)
    else node false false fuel
/-- The value of a pair. A value missing behind the colon takes the place of the token that
stands in the colon's cell. -/
def flowPairValue : Nat → ReadM Node
  | 0 => do fail (← peek) "exceeded max depth"
  | fuel + 1 => do
    let t ← peek
    if t.lexeme == .value then
      skip
      let u ← peek
      if u.lexeme == .flowEntry || u.lexeme == .flowSequenceEnd then pure (emptyNode t.vacated)
      else node false false fuel
    else pure (emptyNode t.start)
def flowFields (isFirst : Bool) : Nat → ReadM (List (Node × Node))
  | 0 => do fail (← peek) "exceeded max depth"
  | fuel + 1 => do
    let t ← peek
    match t.lexeme with
    | .flowMappingEnd => do
      skip
      pure []
    | _ =>
      if !isFirst then
        if t.lexeme == .flowEntry then skip else fail t "did not find expected ',' or '\x7d'"
      let u ← peek
      match u.lexeme with
      | .flowMappingEnd => do
        skip
        pure []
      | .key => do
        skip
        let v ← peek
        let key ← if v.lexeme == .value || v.lexeme == .flowEntry || v.lexeme == .flowMappingEnd
          then pure (emptyNode v.start) else node false false fuel
        let value ← flowValue fuel
        pure ((key, value) :: (← flowFields false fuel))
      | _ => do
        let key ← node false false fuel
        let v ← peek
        pure ((key, emptyNode v.start) :: (← flowFields false fuel))
def flowValue : Nat → ReadM Node
  | 0 => do fail (← peek) "exceeded max depth"
  | fuel + 1 => do
    let t ← peek
    if t.lexeme == .value then
      skip
      let u ← peek
      if u.lexeme == .flowEntry || u.lexeme == .flowMappingEnd then pure (emptyNode u.start)
      else node false false fuel
    else pure (emptyNode t.start)
end

def directives (version : Bool) : Nat → ReadM Unit
  | 0 => pure ()
  | fuel + 1 => do
    let t ← peek
    match t.lexeme with
    | .versionDirective major minor =>
      if version then fail t "found duplicate %YAML directive"
      if major != 1 || minor != 1 then fail t "found incompatible YAML document"
      skip
      directives true fuel
    | .tagDirective handle leader =>
      let r ← get
      if r.handles.any (·.1 == handle) then fail t "found duplicate %TAG directive"
      set { r with handles := (handle, leader) :: r.handles }
      skip
      directives version fuel
    | _ => pure ()

/-- The handles that need no directive, unless one redefines them. -/
def defaultHandles : ReadM Unit :=
  modify fun r => { r with handles := r.handles ++ [("!", "!"), ("!!", longTagHead)] }

def framesDocument : Lexeme → Bool
  | .versionDirective .. | .tagDirective .. | .documentStart | .documentEnd | .streamEnd => true
  | _ => false

def markedDocument (fuel : Nat) : ReadM Node := do
  directives false fuel
  defaultHandles
  let t ← peek
  if t.lexeme != .documentStart then fail t "did not find expected <document start>"
  skip
  let u ← peek
  if framesDocument u.lexeme then pure (emptyNode u.start) else node true false fuel

def document (fuel : Nat) : ReadM (Option Node) := do
  -- The start of the stream says nothing.
  let _ ← peek
  skip
  let t ← peek
  match t.lexeme with
  | .streamEnd => pure none
  | .versionDirective .. | .tagDirective .. | .documentStart => do
    let root ← markedDocument fuel
    let _ ← peek
    pure (some root)
  | _ => do
    defaultHandles
    let root ← node true false fuel
    let _ ← peek
    pure (some root)

end ReadM

def document (text : String) : Except Fault (Option Node) :=
  let scanned := Tokens.ofText text
  let reader : Reader := { tokens := scanned.tokens, fault := scanned.fault }
  ((ReadM.document (4 * scanned.tokens.length + 8)).run reader).map (·.1)

end Lanewise.Yaml
