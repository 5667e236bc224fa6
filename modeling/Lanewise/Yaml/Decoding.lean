import Lanewise.Text.Quoted
import Lanewise.Yaml.Document

/-!
# Records in documents

Decoding of nodes into values of given types. A node of the wrong type is a problem: it is noted,
the field keeps its default and decoding goes on, so one run finds all problems. A scalar that does
not fit the tag written in front of it ends decoding at once.

Null leaves a field at its default and is dropped from a list. A mapping takes in the fields of the
mappings under its merge key, but keeps those it has itself.
-/

namespace Lanewise.Yaml

inductive Problem
  | mismatch (line : Int) (tag : String) (text : Option String) (type : String)
  | unknownField (line : Int) (name type : String)
  | repeatedField (line : Int) (name type : String)
  | repeatedKey (line : Int) (key : String) (first : Int)
  deriving DecidableEq, Repr

def longestShown : Nat := 10

/-- The first `n` bytes of a text. A character that is cut in two leaves a replacement character
for each of its bytes. -/
def firstBytes : Nat → List Char → List Char
  | _, [] => []
  | n, c :: cs =>
    if c.utf8Size ≤ n then c :: firstBytes (n - c.utf8Size) cs
    else List.replicate n (Char.ofNat 0xfffd)

def shown (text : String) : String :=
  if longestShown < text.utf8ByteSize then String.ofList (firstBytes 7 text.toList) ++ "..."
  else text

namespace Problem

def message : Problem → String
  | .mismatch line tag text type =>
    let value := match text with
      | some t => " `" ++ shown t ++ "`"
      | none => ""
    "line " ++ toString line ++ ": cannot unmarshal " ++ tag ++ value ++ " into " ++ type
  | .unknownField line name type =>
    "line " ++ toString line ++ ": field " ++ name ++ " not found in type " ++ type
  | .repeatedField line name type =>
    "line " ++ toString line ++ ": field " ++ name ++ " already set in type " ++ type
  | .repeatedKey line key first =>
    "line " ++ toString line ++ ": mapping key " ++ Text.quoted key ++
      " already defined at line " ++ toString first

end Problem

abbrev DecodeM := StateT (List Problem) (Except Fault)

namespace Node

/-- What two keys have to share to be the same key, besides their text. -/
inductive Form
  | scalar | sequence | mapping | alias
  deriving DecidableEq

def form : Node → Form
  | .scalar .. => .scalar
  | .sequence .. => .sequence
  | .mapping .. => .mapping
  | .alias .. => .alias

def isMerge : Node → Bool
  | .scalar _ tag _ text => tag == "!!merge" && text == "<<"
  | _ => false

def isMapping (n : Node) : Bool := n.form == .mapping

def repeatedKeys : List (Node × Node) → List Problem
  | [] => []
  | (key, _) :: rest =>
    (rest.filter fun (other, _) => other.form == key.form && other.keyText == key.keyText).map
      (fun (other, _) => .repeatedKey other.pos.line other.keyText key.pos.line) ++
    repeatedKeys rest

end Node

namespace DecodeM

variable {α : Type}

def note (problem : Problem) : DecodeM Unit := modify (· ++ [problem])

/-- Notes that a node is not of the type. A mapping with repeated keys is told about those
instead. -/
def mismatch (type : String) (n : Node) : DecodeM (Option α) := do
  match n with
  | .scalar pos tag _ text => note (.mismatch pos.line tag (some text) type)
  | .sequence pos tag _ =>
    note (.mismatch pos.line tag (if tag == "!!seq" then none else some "") type)
  | .mapping pos tag fields =>
    match Node.repeatedKeys fields with
    | [] => note (.mismatch pos.line tag (if tag == "!!map" then none else some "") type)
    | repeated => modify (· ++ repeated)
  | .alias .. => pure ()
  return none

def scalarValue (pos : Pos) (tag text : String) : DecodeM Value :=
  match Value.ofTagged? tag text with
  | some v => return v
  | none => throw ⟨(pos.line - 1).toNat, "cannot decode `" ++ text ++ "` as a " ++ tag⟩

def string (n : Node) : DecodeM (Option String) := do
  match n.resolve with
  | .scalar pos tag _ text =>
    match ← scalarValue pos tag text with
    | .null => return none
    | _ => return some text
  | other => mismatch "string" other

def bool (n : Node) : DecodeM (Option Bool) := do
  match n.resolve with
  | .scalar pos tag style text =>
    let _ ← scalarValue pos tag text
    match (Node.scalar pos tag style text).bool? with
    | some b => return b
    | none => mismatch "bool" (.scalar pos tag style text)
  | other => mismatch "bool" other

/-- A number of 64 bits. The fraction of a float is dropped. -/
def int (n : Node) : DecodeM (Option Int) := do
  match n.resolve with
  | .scalar pos tag style text =>
    let refuse := mismatch "int" (.scalar pos tag style text)
    match ← scalarValue pos tag text with
    | .null => return none
    | .int v => if v < Decimal.Binary64.intBound then return some v else refuse
    | .float x =>
      match x.truncate? with
      | some v => return some v
      | none => refuse
    | _ => refuse
  | other => mismatch "int" other

def items (item : Node → DecodeM (Option α)) : List Node → DecodeM (List α)
  | [] => return []
  | n :: rest => do
    match ← item n with
    | some a => return a :: (← items item rest)
    | none => items item rest

def list (type : String) (item : Node → DecodeM (Option α)) (n : Node) :
    DecodeM (Option (List α)) := do
  match n.resolve with
  | .sequence _ _ nodes => return some (← items item nodes)
  | .scalar pos tag style text =>
    match ← scalarValue pos tag text with
    | .null => return some []
    | _ => mismatch type (.scalar pos tag style text)
  | other => mismatch type other

structure Record (α : Type) where
  type : String
  field? : String → Option (α → Node → DecodeM α)

structure Draft (α : Type) where
  value : α
  /-- While a mapping is merged in: the names that are taken. -/
  taken : Option (List String) := none

/-- Takes in the fields of a mapping one after the other. `done` holds the names already seen in
it. -/
def fields (r : Record α) (done : List String) (draft : Draft α) :
    List (Node × Node) → DecodeM (Draft α)
  | [] => return draft
  | (key, value) :: rest => do
    if key.isMerge then fields r done draft rest
    else
      match ← string key with
      -- A key that is null or no scalar names no field.
      | none => fields r done draft rest
      | some name =>
        -- While a mapping is merged in, fields that are there already win.
        if draft.taken.any (·.contains name) then fields r done draft rest
        else
          let draft := { draft with taken := draft.taken.map (name :: ·) }
          match r.field? name with
          | none =>
            note (.unknownField key.pos.line name r.type)
            fields r done draft rest
          | some take =>
            if done.contains name then
              note (.repeatedField key.pos.line name r.type)
              fields r done draft rest
            else
              let value ← take draft.value value
              fields r (name :: done) { draft with value } rest

def keyNames (fields : List (Node × Node)) : List String :=
  fields.filterMap fun (key, _) =>
    match key.resolve.value? with
    | some (.string s) => some s
    | _ => none

structure Merged (α : Type) where
  node : Node
  take : Draft α → DecodeM (Draft α)

def mergeAll (draft : Draft α) : List (Merged α) → DecodeM (Draft α)
  | [] => return draft
  | m :: rest => do
    let isMapping := match m.node with
      | .alias _ _ target => target.isMapping
      | n => n.isMapping
    if !isMapping then
      throw ⟨(m.node.pos.line - 1).toNat,
        "map merge requires map or sequence of maps as the value"⟩
    mergeAll (← m.take draft) rest

/-- Takes in the mappings under the merge key of a mapping with the given fields. The names that
are taken are those of the mapping itself, unless it is being merged in already. -/
def merge (fields : List (Node × Node)) (draft : Draft α) (merged : List (Merged α)) :
    DecodeM (Draft α) := do
  let taken := draft.taken.getD (keyNames fields)
  let after ← mergeAll { draft with taken := some taken } merged
  return { after with taken := if draft.taken.isSome then after.taken else none }

mutual
def record (r : Record α) : Node → Draft α → DecodeM (Option (Draft α))
  | .alias _ _ target, draft => record r target draft
  | .scalar pos tag style text, _ => do
    match ← scalarValue pos tag text with
    | .null => return none
    | _ => mismatch r.type (.scalar pos tag style text)
  | .sequence pos tag items, _ => mismatch r.type (.sequence pos tag items)
  | .mapping _ _ fs, draft => do
    match Node.repeatedKeys fs with
    | [] =>
      let draft ← fields r [] draft fs
      match lastMerged r fs with
      | none => return some draft
      | some merged => return some (← merge fs draft merged)
    | repeated =>
      modify (· ++ repeated)
      return none
def lastMerged (r : Record α) : List (Node × Node) → Option (List (Merged α))
  | [] => none
  | (key, value) :: rest =>
    let take := record r value
    match lastMerged r rest with
    | some merged => some merged
    | none =>
      if !key.isMerge then none
      else
        match value with
        | .sequence _ _ items => some (mergedItems r items)
        | _ => some [⟨value, fun draft => return (← take draft).getD draft⟩]
def mergedItems (r : Record α) : List Node → List (Merged α)
  | [] => []
  | n :: rest => ⟨n, fun draft => return (← record r n draft).getD draft⟩ :: mergedItems r rest
end

end DecodeM

end Lanewise.Yaml
