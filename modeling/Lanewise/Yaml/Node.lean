import Lanewise.Pos
import Lanewise.Yaml.Token
import Lanewise.Yaml.Value

/-!
# Nodes

A YAML document is a tree of scalars, sequences and mappings. Every node has a tag, which is
written in front of it or follows from its text, and a position. An alias holds the node it names,
so a tree is finite and can be walked without a table of anchors.
-/

namespace Lanewise.Yaml

inductive Node
  | scalar (pos : Pos) (tag : String) (style : Style) (text : String)
  | sequence (pos : Pos) (tag : String) (items : List Node)
  | mapping (pos : Pos) (tag : String) (fields : List (Node × Node))
  | alias (pos : Pos) (name : String) (target : Node)
  deriving Repr, Inhabited

namespace Node

/-- The node an alias stands for, and any other node itself. -/
def resolve : Node → Node
  | .alias _ _ target => target.resolve
  | n => n

def pos : Node → Pos
  | .scalar p .. | .sequence p .. | .mapping p .. | .alias p .. => p

def tag : Node → String
  | .scalar _ t _ _ | .sequence _ t _ | .mapping _ t _ => t
  | .alias _ _ target => target.tag

/-- The text by which a mapping finds a key. Collections have none, and an alias has the name of
its anchor. -/
def keyText : Node → String
  | .scalar _ _ _ text => text
  | .alias _ name _ => name
  | _ => ""

def isNull : Node → Bool
  | .scalar _ tag _ _ => tag == "!!null"
  | _ => false

def value? : Node → Option Value
  | .scalar _ tag _ text => Value.ofTagged? tag text
  | _ => none

/-- A boolean, or a word that stands for one. Null leaves the choice open. -/
def bool? (n : Node) : Option (Option Bool) :=
  match n.value? with
  | some .null => some none
  | some (.bool b) => some (some b)
  | some (.string s) =>
    if ["y", "Y", "yes", "Yes", "YES", "on", "On", "ON"].contains s then some (some true)
    else if ["n", "N", "no", "No", "NO", "off", "Off", "OFF"].contains s then some (some false)
    else none
  | _ => none

/-- What holds of a node if it holds of those below it, keys included. -/
@[elab_as_elim]
theorem induct {motive : Node → Prop}
    (scalar : ∀ pos tag style text, motive (.scalar pos tag style text))
    (sequence : ∀ pos tag items, (∀ n ∈ items, motive n) → motive (.sequence pos tag items))
    (mapping : ∀ pos tag fields, (∀ field ∈ fields, motive field.1 ∧ motive field.2) →
      motive (.mapping pos tag fields))
    (target : ∀ pos name target, motive target → motive (.alias pos name target)) :
    (n : Node) → motive n
  | .scalar pos tag style text => scalar pos tag style text
  | .sequence pos tag items => sequence pos tag items fun n hn =>
    have := List.sizeOf_lt_of_mem hn
    induct scalar sequence mapping target n
  | .mapping pos tag fields => mapping pos tag fields fun (key, value) hfield =>
    have := List.sizeOf_lt_of_mem hfield
    ⟨induct scalar sequence mapping target key, induct scalar sequence mapping target value⟩
  | .alias pos name n => target pos name n (induct scalar sequence mapping target n)
termination_by n => sizeOf n
decreasing_by
  all_goals
    simp only [Node.sequence.sizeOf_spec, Node.mapping.sizeOf_spec, Node.alias.sizeOf_spec,
      Prod.mk.sizeOf_spec] at *
    omega

/-- What does not tell an alias from the node it names does not depend on aliases at all. -/
theorem apply_resolve {f : Node → α} (h : ∀ pos name target, f (.alias pos name target) = f target)
    (n : Node) : f n.resolve = f n := by
  cases n with
  | scalar | sequence | mapping => rfl
  | _ pos name target => exact (apply_resolve h target).trans (h pos name target).symm

end Node

end Lanewise.Yaml
