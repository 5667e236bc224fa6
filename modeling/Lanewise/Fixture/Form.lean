import Lanewise.Fixture.Defect
import Lanewise.Yaml.Node

/-!
# Forms

A statement or a compound expression is a mapping. The first key that names a form says what it is,
the value of that key is its head, and every other key has to be a field the form allows.

A form does not look at the values of the mapping, so it is defined for values of any type. In which
order the other keys are gone through is left open (`KeyOrder`): of several that are not allowed,
any one can be the one that is reported.
-/

namespace Lanewise.Fixture

open Yaml (Node)

abbrev Grammar := List (String × List String)

namespace Grammar

def fields? (g : Grammar) (form : String) : Option (List String) := g.lookup form

def statements : Grammar := [
  ("fn", ["params", "returns", "body"]),
  ("let", ["type", "mut", "value"]),
  ("return", []),
  ("block", []),
  ("if", ["then", "else"]),
  ("while", ["body"]),
  ("for", ["init", "cond", "step", "body"]),
  ("expr", [])]

def expressions : Grammar := [
  ("binary", ["left", "right"]),
  ("unary", ["operand"]),
  ("call", ["args"]),
  ("group", []),
  ("index", ["at"]),
  ("field", ["of"]),
  ("vector", ["kind"]),
  ("simd", ["left", "right"]),
  ("broadcast", ["scalar", "across"]),
  ("reduce", ["operand"]),
  ("dot", []),
  ("swizzle", ["of"]),
  ("load", ["kind"]),
  ("store", ["value"])]

end Grammar

def Category.grammar : Category → Grammar
  | .statement => .statements
  | .expression => .expressions

/-- An order in which to go through the keys of a mapping. -/
structure KeyOrder where
  visit : List String → List String
  perm : ∀ keys, (visit keys).Perm keys

def KeyOrder.written : KeyOrder := ⟨id, fun _ => .refl _⟩

structure Form (α : Type) where
  pos : Pos
  name : String
  head : α
  /-- The fields by name, the one of the head left out. -/
  fields : List (String × α)

namespace Form

variable {α : Type}

def keys (fields : List (Node × α)) : List String := fields.map (·.1.keyText)

def repeatedKey? (seen : List String) : List (Node × α) → Option Node
  | [] => none
  | (key, _) :: rest =>
    if seen.contains key.keyText then some key else repeatedKey? (key.keyText :: seen) rest

def head? (g : Grammar) (fields : List (Node × α)) : Option (Node × α) :=
  fields.find? fun field => (g.fields? field.1.keyText).isSome

def others (name : String) (fields : List (Node × α)) : List (Node × α) :=
  fields.filter fun field => field.1.keyText != name

/-- The first key, as they are gone through, that is not among the allowed ones. -/
def strangeKey? (order : KeyOrder) (allowed : List String) (fields : List (Node × α)) :
    Option Node :=
  match (order.visit (keys fields)).find? (!allowed.contains ·) with
  | some name => (fields.find? (·.1.keyText == name)).map (·.1)
  | none => none

/-- Splits a mapping into its form and its fields. Repeated keys are refused first, then a mapping
without a form, then fields that do not belong to the form. -/
def ofFields (order : KeyOrder) (category : Category) (pos : Pos) (fields : List (Node × α)) :
    Except Flaw (Form α) :=
  match repeatedKey? [] fields with
  | some key => .error ⟨key.pos, .duplicateKey key.keyText⟩
  | none =>
    match head? category.grammar fields with
    | none => .error ⟨pos, .noForm category⟩
    | some (key, head) =>
      let name := key.keyText
      let rest := others name fields
      -- A second key that names a form is a field like any other here.
      match strangeKey? order ((category.grammar.fields? name).getD []) rest with
      | some key => .error ⟨key.pos, .unknownField key.keyText category name⟩
      | none => .ok ⟨pos, name, head, rest.map fun field => (field.1.keyText, field.2)⟩

def field? (f : Form α) (name : String) : Option α := f.fields.lookup name

section
variable {order : KeyOrder} {allowed : List String} {fields : List (Node × α)}

/-- Whether there is a strange key does not depend on the order. -/
theorem strangeKey?_eq_none :
    strangeKey? order allowed fields = none ↔ ∀ key ∈ keys fields, key ∈ allowed := by
  unfold strangeKey?
  split
  case h_1 name hfound =>
    have hname : name ∈ keys fields :=
      (order.perm _).mem_iff.mp (List.mem_of_find?_eq_some hfound)
    have hstrange : name ∉ allowed := by simpa using List.find?_some hfound
    obtain ⟨field, hfield, hkey⟩ := List.mem_map.mp hname
    refine iff_of_false (fun hnone => ?_) fun h => hstrange (h name hname)
    exact absurd (beq_iff_eq.mpr hkey)
      (List.find?_eq_none.mp (Option.map_eq_none_iff.mp hnone) field hfield)
  case h_2 hnone =>
    refine iff_of_true rfl fun key hkey => ?_
    simpa using List.find?_eq_none.mp hnone key ((order.perm _).mem_iff.mpr hkey)

theorem mem_of_strangeKey? {key : Node} (h : strangeKey? order allowed fields = some key) :
    ∃ value, (key, value) ∈ fields := by
  unfold strangeKey? at h
  split at h
  case h_1 =>
    obtain ⟨field, hfield, rfl⟩ := Option.map_eq_some_iff.mp h
    exact ⟨field.2, List.mem_of_find?_eq_some hfield⟩
  case h_2 => cases h

end

end Form

end Lanewise.Fixture
