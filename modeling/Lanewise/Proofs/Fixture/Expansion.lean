import Lanewise.Proofs.Fixture.Alike
import Lanewise.Proofs.Position.Document

/-!
# Aliases

`program_expand`: a document is read as if each alias in it were the node that the alias stands for,
in whatever order the keys of mappings are gone through. The one exception is an alias that is a
key, which a mapping finds by the name of the anchor.

Nothing resolves the aliases of a document beforehand. Whoever reads a node passes its aliases by,
and the values of a mapping are resolved before anything is asked about them, so that no place and
no tag of an alias gets into the outcome.
-/

namespace Lanewise.Yaml.Node

mutual
/-- The tree with the nodes that aliases stand for in the places of the aliases. -/
def expand : Node → Node
  | .scalar pos tag style text => .scalar pos tag style text
  | .sequence pos tag items => .sequence pos tag (expandIn items)
  | .mapping pos tag fields => .mapping pos tag (expandOf fields)
  | .alias _ _ target => target.expand
def expandIn : List Node → List Node
  | [] => []
  | n :: rest => n.expand :: expandIn rest
def expandOf : List (Node × Node) → List (Node × Node)
  | [] => []
  | (key, value) :: rest => (key.expand, value.expand) :: expandOf rest
end

theorem keyText_expand {n : Node} (h : n.target? = none) : n.expand.keyText = n.keyText := by
  cases n with
  | scalar => rw [expand]
  | sequence | mapping => rw [expand]; rfl
  | _ => cases h

theorem pos_expand {n : Node} (h : n.target? = none) : n.expand.pos = n.pos := by
  cases n with
  | scalar => rw [expand]
  | sequence | mapping => rw [expand]; rfl
  | _ => cases h

theorem expandIn_eq_map (items : List Node) : expandIn items = items.map expand := by
  induction items with
  | nil => rfl
  | cons n rest ih => rw [expandIn, ih, List.map_cons]

theorem expandOf_eq_map (fields : List (Node × Node)) :
    expandOf fields = fields.map fun field => (field.1.expand, field.2.expand) := by
  induction fields with
  | nil => rfl
  | cons field rest ih => rw [expandOf, ih, List.map_cons]

theorem nodes_expand (m : Node) : ∀ n ∈ m.expand.nodes, n.target? = none := by
  induction m using Node.induct with
  | scalar => simp [expand, nodes, target?]
  | sequence _ _ items ih =>
    simp only [expand, expandIn_eq_map, nodes, List.forall_mem_cons]
    refine ⟨rfl, fun n hn => ?_⟩
    obtain ⟨_, hexpanded, hn⟩ := mem_nodesIn.mp hn
    obtain ⟨item, hitem, rfl⟩ := List.mem_map.mp hexpanded
    exact ih item hitem n hn
  | mapping _ _ fields ih =>
    simp only [expand, expandOf_eq_map, nodes, List.forall_mem_cons]
    refine ⟨rfl, fun n hn => ?_⟩
    obtain ⟨_, hexpanded, hn⟩ := mem_nodesOf.mp hn
    obtain ⟨field, hfield, rfl⟩ := List.mem_map.mp hexpanded
    rcases hn with hn | hn
    · exact (ih field hfield).1 n hn
    · exact (ih field hfield).2 n hn
  | target _ _ _ ih =>
    rw [expand]
    exact ih

end Lanewise.Yaml.Node

namespace Lanewise.Fixture

open Yaml (Node)

theorem Reading.ofNode_expand (order : KeyOrder) (n : Node)
    (hkeys : ∀ fields ∈ n.mappings, ∀ field ∈ fields, field.1.target? = none) :
    (ofNode order n.expand).Alike id order order (ofNode order n) := by
  induction n using Node.induct with
  | scalar =>
    rw [Node.expand]
    exact .refl _
  | sequence pos tag items ih =>
    rw [Node.expand, Node.expandIn_eq_map]
    refine ofItems_alike ?_ pos tag
    rw [List.forall₂_map_left_iff, List.forall₂_same]
    intro n hn
    exact ih n hn fun fields hfields => hkeys fields (Node.mem_mappingsIn.mpr ⟨n, hn, hfields⟩)
  | mapping pos tag fields ih =>
    rw [Node.mappings, List.forall_mem_cons] at hkeys
    rw [Node.expand, Node.expandOf_eq_map]
    refine ofFields_alike (.inl rfl) ?_ pos tag
    rw [List.forall₂_map_left_iff, List.forall₂_same]
    intro field hfield
    have hkey := hkeys.1 field hfield
    refine ⟨Node.keyText_expand hkey, Node.pos_expand hkey, (ih field hfield).2 ?_⟩
    exact fun inner hinner => hkeys.2 inner (Node.mem_mappingsOf.mpr ⟨field, hfield, .inr hinner⟩)
  | target _ _ target ih =>
    rw [Node.expand, ofNode_alias]
    exact ih hkeys

/-- If no key is an alias, then the document without aliases gives the same program, or the same
flaw at the same place. -/
theorem program_expand (order : KeyOrder) (name : String) (document : Node)
    (hkeys : ∀ fields ∈ document.mappings, ∀ field ∈ fields, field.1.target? = none) :
    (∀ n ∈ document.expand.nodes, n.target? = none) ∧
      program order name document.expand = program order name document := by
  have halike := (Reading.ofNode_expand order document hkeys).program name
  simp only [Reading.ofNode, program_resolve] at halike
  exact ⟨document.nodes_expand, halike.eq⟩

/-- A function with an aliased parameter whose body is an alias of an alias of nothing. -/
def aliasedFunction : Node :=
  .sequence ⟨1, 1⟩ "!!seq" [
    .mapping ⟨1, 3⟩ "!!map" [
      (.wordAt 1 3 "fn", .wordAt 1 7 "f"),
      (.wordAt 2 3 "params", .sequence ⟨2, 11⟩ "!!seq" [param])],
    .mapping ⟨3, 3⟩ "!!map" [
      (.wordAt 3 3 "fn", .wordAt 3 7 "g"),
      (.wordAt 4 3 "params", .sequence ⟨4, 11⟩ "!!seq" [.alias ⟨4, 12⟩ "p" param]),
      (.wordAt 5 3 "body", .alias ⟨5, 9⟩ "q" (.alias ⟨2, 40⟩ "r" nothing))]]
where
  param : Node := .mapping ⟨2, 12⟩ "!!map" [
    (.wordAt 2 16 "name", .wordAt 2 22 "v"), (.wordAt 2 25 "type", .wordAt 2 31 "i32")]
  nothing : Node := .scalar ⟨1, 9⟩ "!!null" .plain ""

/-- A unary expression whose operator is an alias of a number. -/
def aliasedOperator : Node :=
  .sequence ⟨1, 1⟩ "!!seq" [
    .mapping ⟨1, 3⟩ "!!map" [(.wordAt 1 3 "expr", one)],
    .mapping ⟨2, 3⟩ "!!map" [(.wordAt 2 3 "expr", .mapping ⟨3, 5⟩ "!!map" [
      (.wordAt 3 5 "unary", .alias ⟨3, 12⟩ "one" one)])]]
where
  one : Node := .scalar ⟨1, 9⟩ "!!int" .plain "1"

/-- A statement with an aliased head and two fields that it does not allow. -/
def aliasedFields : Node :=
  .sequence ⟨1, 1⟩ "!!seq" [
    .mapping ⟨1, 3⟩ "!!map" [(.wordAt 1 3 "expr", one)],
    .mapping ⟨2, 3⟩ "!!map" [
      (.wordAt 2 3 "expr", .alias ⟨2, 9⟩ "one" one),
      (.wordAt 3 3 "foo", .alias ⟨3, 8⟩ "one" one),
      (.wordAt 4 3 "bar", .alias ⟨4, 8⟩ "one" one)]]
where
  one : Node := .scalar ⟨1, 9⟩ "!!int" .plain "1"

def KeyOrder.reversed : KeyOrder := ⟨List.reverse, List.reverse_perm⟩

/-- An operator that is wrong is wrong where the alias leads, and either of two fields can be the
one that is reported. -/
theorem program_expand_functionAndFlaws :
    (∃ p, program .written "p" aliasedFunction = .ok p ∧
      program .written "p" aliasedFunction.expand = .ok p) ∧
    program .written "p" aliasedOperator.expand = .error ⟨⟨1, 9⟩, .unknownOperator .unary "1"⟩ ∧
    program .written "p" aliasedFields.expand =
      .error ⟨⟨3, 3⟩, .unknownField "foo" .statement "expr"⟩ ∧
    program .reversed "p" aliasedFields.expand =
      .error ⟨⟨4, 3⟩, .unknownField "bar" .statement "expr"⟩ := by
  have hfunction : ∀ fields ∈ aliasedFunction.mappings, ∀ field ∈ fields,
      field.1.target? = none := by
    decide
  have hoperator : ∀ fields ∈ aliasedOperator.mappings, ∀ field ∈ fields,
      field.1.target? = none := by
    decide
  have hfields : ∀ fields ∈ aliasedFields.mappings, ∀ field ∈ fields,
      field.1.target? = none := by
    decide
  exact ⟨⟨_, rfl, (program_expand .written "p" aliasedFunction hfunction).2.trans rfl⟩,
    (program_expand .written "p" aliasedOperator hoperator).2.trans rfl,
    (program_expand .written "p" aliasedFields hfields).2.trans rfl,
    (program_expand .reversed "p" aliasedFields hfields).2.trans rfl⟩

end Lanewise.Fixture
