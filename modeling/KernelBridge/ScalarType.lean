/-!
# Scalar types

The types of a kernel's scalar arguments and of the elements of its buffers.

## Main definitions

* `ScalarType` — the twelve types
* `ScalarType.bits`, `ScalarType.bytes` — their widths
* `TypeClass` — signed, unsigned, floating or opaque
* `ScalarType.parse` — the type of a name
-/

namespace KernelBridge

/-- The class of a scalar type, in the kernel runtime's numbering. -/
inductive TypeClass where
  | int
  | uint
  | float
  | handle
  deriving DecidableEq, Repr

/-- The number of the class in the kernel runtime. -/
def TypeClass.code : TypeClass → Nat
  | int => 0
  | uint => 1
  | float => 2
  | handle => 3

/-- The types that a kernel takes by value, or as elements of a buffer. -/
inductive ScalarType where
  | bool
  | u8
  | u16
  | u32
  | u64
  | i8
  | i16
  | i32
  | i64
  | f32
  | f64
  /-- An opaque pointer, the type of a user context. -/
  | handle
  deriving DecidableEq, Repr

namespace ScalarType

/-- Every scalar type, in order. -/
def all : List ScalarType := [bool, u8, u16, u32, u64, i8, i16, i32, i64, f32, f64, handle]

def name : ScalarType → String
  | bool => "bool"
  | u8 => "u8"
  | u16 => "u16"
  | u32 => "u32"
  | u64 => "u64"
  | i8 => "i8"
  | i16 => "i16"
  | i32 => "i32"
  | i64 => "i64"
  | f32 => "f32"
  | f64 => "f64"
  | handle => "handle"

/-- The width of a pointer in bits. -/
def pointerBits : Nat := 64

/-- The width in bits: one for a truth value, a pointer's for a handle. -/
def bits : ScalarType → Nat
  | bool => 1
  | u8 | i8 => 8
  | u16 | i16 => 16
  | u32 | i32 | f32 => 32
  | u64 | i64 | f64 => 64
  | handle => pointerBits

/-- The storage of one element in whole bytes. -/
def bytes (type : ScalarType) : Nat := (type.bits + 7) / 8

def typeClass : ScalarType → TypeClass
  | bool | u8 | u16 | u32 | u64 => .uint
  | i8 | i16 | i32 | i64 => .int
  | f32 | f64 => .float
  | handle => .handle

/-- The types by their names. -/
def named : List (String × ScalarType) := all.map fun type => (type.name, type)

/-- A name that no scalar type has. -/
structure Unknown where
  name : String
  deriving DecidableEq, Repr

def Unknown.message (unknown : Unknown) : String := "unknown scalar type: " ++ unknown.name

/-- The type of exactly that name. -/
def parse (text : String) : Except Unknown ScalarType :=
  match named.lookup text with
  | some type => .ok type
  | none => .error ⟨text⟩

theorem bytes_pos (type : ScalarType) : 0 < type.bytes := by cases type <;> decide

end ScalarType

end KernelBridge
