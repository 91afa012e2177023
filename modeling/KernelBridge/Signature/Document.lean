import KernelBridge.Json.Writer
import KernelBridge.Signature.Validation

/-!
# Signature documents

A set of signatures is exchanged as a JSON document. In the objects of arguments the
number of dimensions may be left out or null, and the mark of the user context may be left
out; the written form leaves out both where they say nothing.

## Main definitions

* `SignatureSet.read` — the set that a text holds, valid or not
* `SignatureSet.parse` — the valid set that a text holds
* `SignatureSet.load` — the same from the bytes of a file
* `SignatureSet.write` — the compact text of a set
-/

namespace KernelBridge

open Json

/-! ### Reading -/

/-- The fields of an argument that have been read so far. -/
structure ArgumentFields where
  name : Option String := none
  kind : Option ArgumentKind := none
  type : Option ScalarType := none
  dimensions : Option (Option UInt32) := none
  marked : Option Bool := none

namespace ArgumentFields

/-- The fields after one more member. -/
def addMember (fields : ArgumentFields) (key : String) (value : Node) :
    Reading ArgumentFields :=
  match key with
  | "name" => do return { fields with name := ← readField key fields.name readString value }
  | "kind" => do
    return { fields with
      kind := ← readField key fields.kind (readChoice ArgumentKind.named) value }
  | "type" => do
    return { fields with type := ← readField key fields.type (readChoice ScalarType.named) value }
  | "dimensions" => do
    return { fields with
      dimensions := ← readField key fields.dimensions (readOption readU32) value }
  | "user_context" => do
    return { fields with marked := ← readField key fields.marked readBool value }
  | _ => skipMember fields value

/-- The argument that the fields make up. -/
def finish (fields : ArgumentFields) : Reading Argument := do
  let name ← requireField "name" fields.name
  let kind ← requireField "kind" fields.kind
  let type ← requireField "type" fields.type
  return ⟨name, kind, type, fields.dimensions.getD none, fields.marked.getD false⟩

end ArgumentFields

/-- An argument: an object, or an array of its five fields of which the last two may be
missing. -/
def readArgument : Node → Reading Argument
  | .array elements => do
    let short (found : Nat) : Mismatch :=
      .invalidLength found "struct ArgumentDef with 5 elements"
    let (name, rest) ← elements.demand readString (short 0)
    let (kind, rest) ← rest.demand (readChoice ArgumentKind.named) (short 1)
    let (type, rest) ← rest.demand (readChoice ScalarType.named) (short 2)
    let (dimensions, rest) ← rest.take (readOption readU32)
    let (marked, rest) ← rest.take readBool
    rest.finish
    return ⟨name, kind, type, dimensions.getD none, marked.getD false⟩
  | .object members => do (← members.fold ArgumentFields.addMember {}).finish
  | node => wrongType "struct ArgumentDef" node

/-- The fields of a signature that have been read so far. -/
structure SignatureFields where
  name : Option String := none
  arguments : Option (List Argument) := none

namespace SignatureFields

/-- The fields after one more member. -/
def addMember (fields : SignatureFields) (key : String) (value : Node) :
    Reading SignatureFields :=
  match key with
  | "name" => do return { fields with name := ← readField key fields.name readString value }
  | "args" => do
    return { fields with
      arguments := ← readField key fields.arguments (readList readArgument) value }
  | _ => skipMember fields value

/-- The signature that the fields make up. -/
def finish (fields : SignatureFields) : Reading Signature := do
  let name ← requireField "name" fields.name
  let arguments ← requireField "args" fields.arguments
  return ⟨name, arguments⟩

end SignatureFields

/-- A signature: an object, or an array of its two fields. -/
def readSignature : Node → Reading Signature
  | .array elements => do
    let short (found : Nat) : Mismatch :=
      .invalidLength found "struct FunctionSignature with 2 elements"
    let (name, rest) ← elements.demand readString (short 0)
    let (arguments, rest) ← rest.demand (readList readArgument) (short 1)
    rest.finish
    return ⟨name, arguments⟩
  | .object members => do (← members.fold SignatureFields.addMember {}).finish
  | node => wrongType "struct FunctionSignature" node

/-- The fields of a set of signatures that have been read so far. -/
structure SetFields where
  version : Option String := none
  functions : Option (List Signature) := none

namespace SetFields

/-- The fields after one more member. -/
def addMember (fields : SetFields) (key : String) (value : Node) : Reading SetFields :=
  match key with
  | "version" => do
    return { fields with version := ← readField key fields.version readString value }
  | "functions" => do
    return { fields with
      functions := ← readField key fields.functions (readList readSignature) value }
  | _ => skipMember fields value

/-- The set that the fields make up. -/
def finish (fields : SetFields) : Reading SignatureSet := do
  let version ← requireField "version" fields.version
  let functions ← requireField "functions" fields.functions
  return ⟨version, functions⟩

end SetFields

/-- A set of signatures: an object, or an array of its two fields. -/
def readSet : Node → Reading SignatureSet
  | .array elements => do
    let short (found : Nat) : Mismatch :=
      .invalidLength found "struct SignatureSet with 2 elements"
    let (version, rest) ← elements.demand readString (short 0)
    let (functions, rest) ← rest.demand (readList readSignature) (short 1)
    rest.finish
    return ⟨version, functions⟩
  | .object members => do (← members.fold SetFields.addMember {}).finish
  | node => wrongType "struct SignatureSet" node

namespace SignatureSet

/-- The set of signatures that a text holds. -/
def read (text : String) : Except GenerationError SignatureSet :=
  (Json.read readSet text).mapError .document

/-- The valid set of signatures that a text holds. -/
def parse (text : String) : Except GenerationError SignatureSet := do
  let set ← read text
  set.validate
  return set

/-- The valid set of signatures in a file, given its bytes. -/
def load (contents : Except FileFault ByteArray) : Except GenerationError SignatureSet := do
  let bytes ← contents.mapError .file
  parse (← (textOfBytes bytes).mapError .file)

end SignatureSet

/-! ### Writing -/

/-- The object of an argument. -/
def Argument.write (argument : Argument) : String :=
  writeObject <|
    [("name", writeString argument.name), ("kind", writeString argument.kind.name),
      ("type", writeString argument.type.name)]
    ++ (match argument.dimensions with
      | some dimensions => [("dimensions", toString dimensions.toNat)]
      | none => [])
    ++ (if argument.marked then [("user_context", "true")] else [])

/-- The object of a signature. -/
def Signature.write (signature : Signature) : String :=
  writeObject [("name", writeString signature.name),
    ("args", writeArray (signature.arguments.map Argument.write))]

/-- The document of a set of signatures. -/
def SignatureSet.write (set : SignatureSet) : String :=
  writeObject [("version", writeString set.version),
    ("functions", writeArray (set.functions.map Signature.write))]

end KernelBridge
