/-!
# Scalar types

The builtin types that hold one value, with the names they have in a program.
-/

namespace Lanewise

inductive Scalar
  | i8 | i16 | i32 | i64
  | u8 | u16 | u32 | u64
  | f32 | f64
  | bool | string | unit
  deriving DecidableEq, Repr, Inhabited

namespace Scalar

def text : Scalar → String
  | .i8 => "i8"
  | .i16 => "i16"
  | .i32 => "i32"
  | .i64 => "i64"
  | .u8 => "u8"
  | .u16 => "u16"
  | .u32 => "u32"
  | .u64 => "u64"
  | .f32 => "f32"
  | .f64 => "f64"
  | .bool => "bool"
  | .string => "string"
  | .unit => "()"

/-- The scalar a source name stands for. The unit type has two names. -/
def ofName? : String → Option Scalar
  | "i8" => some .i8
  | "i16" => some .i16
  | "i32" => some .i32
  | "i64" => some .i64
  | "u8" => some .u8
  | "u16" => some .u16
  | "u32" => some .u32
  | "u64" => some .u64
  | "f32" => some .f32
  | "f64" => some .f64
  | "bool" => some .bool
  | "string" => some .string
  | "()" | "unit" => some .unit
  | _ => none

def isSigned : Scalar → Bool
  | .i8 | .i16 | .i32 | .i64 => true
  | _ => false

def isUnsigned : Scalar → Bool
  | .u8 | .u16 | .u32 | .u64 => true
  | _ => false

def isInteger (s : Scalar) : Bool := s.isSigned || s.isUnsigned

def isFloat : Scalar → Bool
  | .f32 | .f64 => true
  | _ => false

def isNumeric (s : Scalar) : Bool := s.isInteger || s.isFloat

/-- The size of a lane of this type; a boolean takes a whole byte. -/
def bits : Scalar → Nat
  | .i8 | .u8 | .bool => 8
  | .i16 | .u16 => 16
  | .i32 | .u32 | .f32 => 32
  | .i64 | .u64 | .f64 => 64
  | .string | .unit => 0

end Scalar

end Lanewise
