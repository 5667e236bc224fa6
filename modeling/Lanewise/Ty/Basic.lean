import Lanewise.Ty.VectorKind

/-!
# Types

A type is a scalar, an array, a reference, a function, a vector or a name. Next to these stand the
values a broken program can bring about: a type that is absent, a function without a signature, a
vector of no valid kind, the error type and a number that names no type at all. They are part of
the one type so that every rule says what it does with them.

`Ty.same` is structural equality, and `Ty.same_iff` says so.
-/

namespace Lanewise

inductive Ty
  | absent
  | scalar (s : Scalar)
  | array (elem : Ty)
  | reference (pointee : Ty)
  | function (params : List Ty) (ret : Ty) (variadic : Bool)
  /-- A function whose signature is missing. -/
  | bareFunction
  | vector (kind : VectorKind)
  | custom (name : String)
  | generic (name : String)
  /-- Stands for the type of something already reported as wrong. -/
  | error
  /-- A number that names no form of type. -/
  | unknown (code : Int)
  deriving Repr, Inhabited

structure Signature where
  params : List Ty
  ret : Ty
  variadic : Bool
  deriving Repr, Inhabited

namespace Ty

abbrev i8 : Ty := .scalar .i8
abbrev i16 : Ty := .scalar .i16
abbrev i32 : Ty := .scalar .i32
abbrev i64 : Ty := .scalar .i64
abbrev u8 : Ty := .scalar .u8
abbrev u16 : Ty := .scalar .u16
abbrev u32 : Ty := .scalar .u32
abbrev u64 : Ty := .scalar .u64
abbrev f32 : Ty := .scalar .f32
abbrev f64 : Ty := .scalar .f64
abbrev bool : Ty := .scalar .bool
abbrev string : Ty := .scalar .string
abbrev unit : Ty := .scalar .unit

mutual
def same : Ty → Ty → Bool
  | .absent, .absent => true
  | .scalar a, .scalar b => a == b
  | .array a, .array b => a.same b
  | .reference a, .reference b => a.same b
  | .function ps r v, .function qs q w => v == w && sameAll ps qs && r.same q
  | .bareFunction, .bareFunction => true
  | .vector a, .vector b => a == b
  | .custom a, .custom b => a == b
  | .generic a, .generic b => a == b
  | .error, .error => true
  | .unknown a, .unknown b => a == b
  | _, _ => false
def sameAll : List Ty → List Ty → Bool
  | [], [] => true
  | a :: as, b :: bs => a.same b && sameAll as bs
  | _, _ => false
end

mutual
theorem same_self : (a : Ty) → a.same a = true
  | .absent | .bareFunction | .error => by simp [same]
  | .scalar _ | .vector _ | .custom _ | .generic _ | .unknown _ => by simp [same]
  | .array a | .reference a => by simp [same, same_self a]
  | .function ps r _ => by simp [same, sameAll_self ps, same_self r]
theorem sameAll_self : (as : List Ty) → sameAll as as = true
  | [] => by simp [sameAll]
  | a :: as => by simp [sameAll, same_self a, sameAll_self as]
end

mutual
theorem eq_of_same : (a b : Ty) → a.same b = true → a = b
  | .absent, b, h => by cases b <;> simp_all [same]
  | .scalar _, b, h => by cases b <;> simp_all [same]
  | .array a, b, h => by cases b <;> simp_all [same]; exact eq_of_same a _ h
  | .reference a, b, h => by cases b <;> simp_all [same]; exact eq_of_same a _ h
  | .function ps r _, b, h => by
    cases b <;> simp_all [same]
    exact ⟨eq_of_sameAll ps _ h.1.2, eq_of_same r _ h.2⟩
  | .bareFunction, b, h => by cases b <;> simp_all [same]
  | .vector _, b, h => by cases b <;> simp_all [same]
  | .custom _, b, h => by cases b <;> simp_all [same]
  | .generic _, b, h => by cases b <;> simp_all [same]
  | .error, b, h => by cases b <;> simp_all [same]
  | .unknown _, b, h => by cases b <;> simp_all [same]
theorem eq_of_sameAll : (as bs : List Ty) → sameAll as bs = true → as = bs
  | [], bs, h => by cases bs <;> simp_all [sameAll]
  | a :: as, bs, h => by
    cases bs with
    | nil => simp [sameAll] at h
    | cons b bs =>
      simp only [sameAll, Bool.and_eq_true] at h
      rw [eq_of_same a b h.1, eq_of_sameAll as bs h.2]
end

theorem same_iff {a b : Ty} : a.same b = true ↔ a = b :=
  ⟨eq_of_same a b, fun h => h ▸ same_self a⟩

instance : DecidableEq Ty := fun a b => decidable_of_iff (a.same b = true) same_iff

mutual
def text : Ty → String
  | .absent => "<nil>"
  | .scalar s => s.text
  | .array elem => "[" ++ elem.text ++ "]"
  | .reference pointee => "&" ++ pointee.text
  | .function params ret variadic =>
    let dots := if variadic then ["..."] else []
    let result := match ret with
      | .absent => Scalar.unit.text
      | _ => ret.text
    "fn(" ++ ", ".intercalate (texts params ++ dots) ++ ") -> " ++ result
  | .bareFunction => "fn(<nil>)"
  | .vector kind => kind.text
  | .custom name => name
  | .generic name => "$" ++ name
  | .error => "<error>"
  | .unknown _ => "<unknown>"
def texts : List Ty → List String
  | [] => []
  | t :: ts => t.text :: texts ts
end

/-- A text that tells well-formed types apart. -/
def key (t : Ty) : String := t.text

/-- The type with the given number and nothing else: a compound type lacks its parts. -/
def ofCode (code : Int) : Ty :=
  match code with
  | 0 => i8
  | 1 => i16
  | 2 => i32
  | 3 => i64
  | 4 => u8
  | 5 => u16
  | 6 => u32
  | 7 => u64
  | 8 => f32
  | 9 => f64
  | 10 => bool
  | 11 => string
  | 12 => unit
  | 13 => .array .absent
  | 14 => .reference .absent
  | 15 => .bareFunction
  | 16 => .vector (.invalid 0)
  | 17 => .custom ""
  | 18 => .generic ""
  | 19 => .error
  | _ => .unknown code

/-- The vector type of a kind; an invalid kind gives the error type. -/
def ofKind (kind : VectorKind) : Ty := if kind.isValid then .vector kind else .error

def ofSignature : Option Signature → Ty
  | some sig => .function sig.params sig.ret sig.variadic
  | none => .bareFunction

def signature? : Ty → Option Signature
  | .function params ret variadic => some ⟨params, ret, variadic⟩
  | _ => none

def scalar? : Ty → Option Scalar
  | .scalar s => some s
  | _ => none

def isSigned (t : Ty) : Bool := t.scalar?.any Scalar.isSigned
def isUnsigned (t : Ty) : Bool := t.scalar?.any Scalar.isUnsigned
def isInteger (t : Ty) : Bool := t.scalar?.any Scalar.isInteger
def isFloat (t : Ty) : Bool := t.scalar?.any Scalar.isFloat
def isNumeric (t : Ty) : Bool := t.scalar?.any Scalar.isNumeric
def bits (t : Ty) : Nat := (t.scalar?.map Scalar.bits).getD 0

def isAbsent : Ty → Bool
  | .absent => true
  | _ => false

def isVector : Ty → Bool
  | .vector _ => true
  | _ => false

def isError : Ty → Bool
  | .error => true
  | _ => false

def isCustom : Ty → Bool
  | .custom _ => true
  | _ => false

def kind : Ty → VectorKind
  | .vector k => k
  | _ => .invalid 0

def width (t : Ty) : Nat := t.kind.width

def lane (t : Ty) : Ty := (t.kind.lane?.map Ty.scalar).getD .absent

end Ty

def VectorKind.lane (k : VectorKind) : Ty := (k.lane?.map Ty.scalar).getD .error

namespace Signature

def text (sig : Signature) : String := (Ty.ofSignature (some sig)).text

def same (a b : Option Signature) : Bool := (Ty.ofSignature a).same (Ty.ofSignature b)

end Signature

end Lanewise
