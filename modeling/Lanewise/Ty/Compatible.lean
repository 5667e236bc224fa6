import Lanewise.Ty.Basic

/-!
# Compatible types

`Ty.compatible expected actual` is the one test behind assignment, return, argument passing and
arithmetic. A name declared by the user that spells a common builtin scalar is taken for that
scalar first. Integer literals have type `i64` and float literals `f64`, so those two narrow freely
while every other integer only widens.
-/

namespace Lanewise.Ty

def reconciled? : String → Option Scalar
  | "i32" => some .i32
  | "i64" => some .i64
  | "bool" => some .bool
  | "string" => some .string
  | "f32" => some .f32
  | "f64" => some .f64
  | _ => none

/-- Replaces a user's name by the builtin scalar it spells, if it spells one. -/
def canonical : Ty → Ty
  | .custom name =>
    match reconciled? name with
    | some s => .scalar s
    | none => .custom name
  | t => t

def isReconcilable : Ty → Bool
  | .custom name => (reconciled? name).isSome
  | _ => false

theorem isReconcilable_canonical (t : Ty) : t.canonical.isReconcilable = false := by
  cases t with
  | custom name => simp only [canonical]; split <;> simp_all [isReconcilable]
  | _ => rfl

theorem canonical_of_not_isReconcilable {t : Ty} (h : t.isReconcilable = false) :
    t.canonical = t := by
  cases t with
  | custom name => simp_all [canonical, isReconcilable]
  | _ => rfl

/-- The conversions between different types, once names are reconciled. -/
def widens (expected actual : Ty) : Bool :=
  if expected.isSigned && actual.isSigned then
    -- Integer literals have type `i64`, so it narrows to every signed type.
    actual.bits ≤ expected.bits || actual == .i64
  else if expected.isUnsigned && actual.isUnsigned then
    actual.bits ≤ expected.bits || actual == .u64
  -- The same literals initialise unsigned variables.
  else if expected.isUnsigned && actual == .i64 then true
  else if expected.isFloat && actual.isFloat then true
  else if expected.isVector && actual.isVector then expected.kind.isCompatible actual.kind
  else false

/-- Whether a value of type `actual` may stand where `expected` is required. -/
def compatible (expected actual : Ty) : Bool :=
  if expected.isAbsent || actual.isAbsent then false
  else if expected.isError || actual.isError then true
  else if expected.same actual then true
  else if expected.isCustom || actual.isCustom then
    if expected.isReconcilable || actual.isReconcilable then
      compatible expected.canonical actual.canonical
    else false
  else widens expected actual
termination_by expected.isReconcilable.toNat + actual.isReconcilable.toNat
decreasing_by
  rename_i changed
  simp only [isReconcilable_canonical]
  cases h : expected.isReconcilable <;> cases h' : actual.isReconcilable <;> simp_all

/-- Either side accepts the other: what the operands of a binary operator must satisfy. -/
def mutuallyCompatible (a b : Ty) : Bool := a.compatible b || b.compatible a

def isComparable (t : Ty) : Bool := t.canonical.isNumeric || t.canonical == .string

end Lanewise.Ty

namespace Lanewise.VectorKind

/-- The kind with the given lane type and number of lanes. Masks are never inferred. -/
def forLanes? (elem : Ty) (lanes : Int) : Option VectorKind :=
  all.find? fun k => !k.isMask && (k.width : Int) == lanes && k.lane == elem.canonical

end Lanewise.VectorKind
