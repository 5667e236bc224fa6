import Lanewise.Text.Blank
import Lanewise.Text.Lower
import Lanewise.Ty.Scalar

/-!
# Vector kinds

The closed set of vector shapes. A kind fixes the lane type, the number of lanes and with them the
size of the register that holds the vector. A number that names no kind is kept: two such kinds are
different when their numbers are.
-/

namespace Lanewise

inductive VectorKind
  | invalid (code : Int)
  | f32x2 | f32x4 | f32x8 | f32x16
  | f64x2 | f64x4 | f64x8
  | i8x8 | i8x16 | i8x32 | i8x64
  | i16x4 | i16x8 | i16x16 | i16x32
  | i32x2 | i32x4 | i32x8 | i32x16
  | i64x2 | i64x4 | i64x8
  | u8x16 | u8x32
  | u16x8 | u16x16
  | u32x4 | u32x8
  | mask8 | mask16 | mask32 | mask64
  deriving DecidableEq, Repr, Inhabited

inductive LaneFamily
  | float | signed | unsigned | mask
  | other (code : Int)
  deriving DecidableEq, Repr

namespace LaneFamily

def text : LaneFamily → String
  | .float => "float"
  | .signed => "signed integer"
  | .unsigned => "unsigned integer"
  | .mask => "mask"
  | .other _ => "unknown"

def ofCode (code : Int) : LaneFamily :=
  match code with
  | 0 => .float
  | 1 => .signed
  | 2 => .unsigned
  | 3 => .mask
  | _ => .other code

end LaneFamily

namespace VectorKind

/-- Every valid kind, in the order in which kinds are listed and numbered from one. -/
def all : List VectorKind := [
  f32x2, f32x4, f32x8, f32x16, f64x2, f64x4, f64x8,
  i8x8, i8x16, i8x32, i8x64, i16x4, i16x8, i16x16, i16x32,
  i32x2, i32x4, i32x8, i32x16, i64x2, i64x4, i64x8,
  u8x16, u8x32, u16x8, u16x16, u32x4, u32x8, mask8, mask16, mask32, mask64]

def ofCode (code : Int) : VectorKind :=
  if 1 ≤ code then all.getD (code.toNat - 1) (.invalid code) else .invalid code

def isValid : VectorKind → Bool
  | .invalid _ => false
  | _ => true

def text : VectorKind → String
  | .invalid _ => "<invalid vector>"
  | .f32x2 => "f32x2"
  | .f32x4 => "f32x4"
  | .f32x8 => "f32x8"
  | .f32x16 => "f32x16"
  | .f64x2 => "f64x2"
  | .f64x4 => "f64x4"
  | .f64x8 => "f64x8"
  | .i8x8 => "i8x8"
  | .i8x16 => "i8x16"
  | .i8x32 => "i8x32"
  | .i8x64 => "i8x64"
  | .i16x4 => "i16x4"
  | .i16x8 => "i16x8"
  | .i16x16 => "i16x16"
  | .i16x32 => "i16x32"
  | .i32x2 => "i32x2"
  | .i32x4 => "i32x4"
  | .i32x8 => "i32x8"
  | .i32x16 => "i32x16"
  | .i64x2 => "i64x2"
  | .i64x4 => "i64x4"
  | .i64x8 => "i64x8"
  | .u8x16 => "u8x16"
  | .u8x32 => "u8x32"
  | .u16x8 => "u16x8"
  | .u16x16 => "u16x16"
  | .u32x4 => "u32x4"
  | .u32x8 => "u32x8"
  | .mask8 => "mask8"
  | .mask16 => "mask16"
  | .mask32 => "mask32"
  | .mask64 => "mask64"

def lane? : VectorKind → Option Scalar
  | .invalid _ => none
  | .f32x2 | .f32x4 | .f32x8 | .f32x16 => some .f32
  | .f64x2 | .f64x4 | .f64x8 => some .f64
  | .i8x8 | .i8x16 | .i8x32 | .i8x64 => some .i8
  | .i16x4 | .i16x8 | .i16x16 | .i16x32 => some .i16
  | .i32x2 | .i32x4 | .i32x8 | .i32x16 => some .i32
  | .i64x2 | .i64x4 | .i64x8 => some .i64
  | .u8x16 | .u8x32 => some .u8
  | .u16x8 | .u16x16 => some .u16
  | .u32x4 | .u32x8 => some .u32
  | .mask8 | .mask16 | .mask32 | .mask64 => some .bool

def width : VectorKind → Nat
  | .invalid _ => 0
  | .f32x2 | .f64x2 | .i32x2 | .i64x2 => 2
  | .f32x4 | .f64x4 | .i16x4 | .i32x4 | .i64x4 | .u32x4 => 4
  | .f32x8 | .f64x8 | .i8x8 | .i16x8 | .i32x8 | .i64x8 | .u16x8 | .u32x8 | .mask8 => 8
  | .f32x16 | .i8x16 | .i16x16 | .i32x16 | .u8x16 | .u16x16 | .mask16 => 16
  | .i8x32 | .i16x32 | .u8x32 | .mask32 => 32
  | .i8x64 | .mask64 => 64

def isMask : VectorKind → Bool
  | .mask8 | .mask16 | .mask32 | .mask64 => true
  | _ => false

def isFloat (k : VectorKind) : Bool := k.lane?.any Scalar.isFloat

def family (k : VectorKind) : LaneFamily :=
  if k.isMask then .mask
  else if k.isFloat then .float
  else if k.lane?.any Scalar.isUnsigned then .unsigned
  else .signed

/-- The size of the register in bits. Masks live in predicate registers and count as the widest
class. -/
def bitWidth (k : VectorKind) : Nat :=
  if k.isMask then 512 else (k.lane?.map Scalar.bits).getD 0 * k.width

def isCompatible (k other : VectorKind) : Bool :=
  k.isValid && other.isValid &&
    (k == other || (k.width == other.width && k.family == other.family))

/-- The kind that a name spells, in any case and with blanks around it. -/
def ofName? (name : String) : Option VectorKind :=
  all.find? (·.text == Text.lower (Text.trim name))

end VectorKind

end Lanewise
