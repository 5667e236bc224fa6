import Lanewise.Check.Context
import Lanewise.Check.Fault
import Lanewise.Program.Stmt

/-!
# Written types

A written type is a scalar, a vector kind or a name, behind any number of `&`, `&mut ` and pairs of
brackets, with blanks allowed between the parts.
-/

namespace Lanewise

structure NameRule where
  isLenient : Bool
  opaqueNames : List String

namespace NameRule

def allows (r : NameRule) (name : String) : Bool := r.opaqueNames.contains name || r.isLenient

def leaf? (r : NameRule) (name : String) : Option Ty :=
  match Scalar.ofName? name with
  | some s => some (.scalar s)
  | none =>
    match VectorKind.ofName? name with
    | some k => some (.ofKind k)
    | none => if r.allows name then some (.custom name) else none

end NameRule

namespace WrittenType

inductive Layer
  | reference (inner : List Char)
  | array (inner : List Char)
  | leaf
  deriving DecidableEq, Repr

def bracketed? : List Char → Option (List Char)
  | '[' :: rest => if rest.getLast? == some ']' then some rest.dropLast else none
  | _ => none

def layer (cs : List Char) : Layer :=
  match cs with
  | '&' :: 'm' :: 'u' :: 't' :: ' ' :: rest => .reference rest
  | '&' :: rest => .reference rest
  | _ =>
    match bracketed? cs with
    | some inner => .array inner
    | none => .leaf

theorem length_bracketed {cs inner : List Char} (h : bracketed? cs = some inner) :
    inner.length < cs.length := by
  unfold bracketed? at h
  split at h
  · rename_i rest
    split at h
    · obtain rfl : rest.dropLast = inner := Option.some.inj h
      rw [List.length_dropLast, List.length_cons]
      omega
    · exact absurd h (by simp)
  · exact absurd h (by simp)

theorem length_reference {cs inner : List Char} (h : layer cs = .reference inner) :
    inner.length < cs.length := by
  unfold layer at h
  split at h
  · obtain rfl := Layer.reference.inj h
    simp only [List.length_cons]
    omega
  · obtain rfl := Layer.reference.inj h
    exact Nat.lt_succ_self _
  · split at h <;> exact absurd h (by simp)

theorem length_array {cs inner : List Char} (h : layer cs = .array inner) :
    inner.length < cs.length := by
  unfold layer at h
  split at h
  · exact absurd h (by simp)
  · exact absurd h (by simp)
  · split at h
    · rename_i found
      exact length_bracketed (Layer.array.inj h ▸ found)
    · exact absurd h (by simp)

/-- The type that a trimmed text stands for, or the name in it that stands for none. -/
def resolveText (r : NameRule) (cs : List Char) : Except String Ty :=
  match h : layer cs with
  | .reference inner =>
    have := length_reference h
    (resolveText r (Text.trimBlanks inner)).map Ty.reference
  | .array inner =>
    have := length_array h
    (resolveText r (Text.trimBlanks inner)).map Ty.array
  | .leaf =>
    let name := String.ofList cs
    if cs.isEmpty then .error ""
    else
      match r.leaf? name with
      | some t => .ok t
      | none => .error name
termination_by cs.length
decreasing_by all_goals exact Nat.lt_of_le_of_lt (Text.length_trimBlanks_le inner) this

def resolve (r : NameRule) (a : WrittenType) : Except TypeError Ty :=
  match resolveText r (Text.trimBlanks a.name.toList) with
  | .ok t => .ok t
  | .error "" => .error ⟨a.pos, .emptyType⟩
  | .error name => .error ⟨a.pos, .unknownType name a.name⟩

end WrittenType

end Lanewise
