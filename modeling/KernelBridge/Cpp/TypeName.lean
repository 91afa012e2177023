import KernelBridge.ScalarType

/-!
# C++ names of the scalar types

## Main definitions

* `ScalarType.cName` — the type as a template argument
* `ScalarType.cPrefix` — the type before the name of a parameter
-/

namespace KernelBridge.ScalarType

/-- The type as C++ writes it. -/
def cName : ScalarType → String
  | bool => "bool"
  | u8 => "uint8_t"
  | u16 => "uint16_t"
  | u32 => "uint32_t"
  | u64 => "uint64_t"
  | i8 => "int8_t"
  | i16 => "int16_t"
  | i32 => "int32_t"
  | i64 => "int64_t"
  | f32 => "float"
  | f64 => "double"
  | handle => "void *"

/-- The type as it stands before a parameter's name: a space follows, except after the
star of a pointer. -/
def cPrefix (type : ScalarType) : String :=
  match type with
  | handle => type.cName
  | _ => type.cName ++ " "

end KernelBridge.ScalarType
