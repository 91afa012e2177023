import KernelBridge.Decimal.Shortest
import KernelBridge.Json.Number
import KernelBridge.Json.Tree
import KernelBridge.Text.Quoted

/-!
# Reading typed values from JSON

Each reader turns a node into a value of one type, or tells the first thing that stands
in its way from left to right: a text that is no JSON, or JSON of the wrong shape. A
record may be an object with its fields in any order, unknown ones among them, or an array
of its fields in order. A choice may be a string, or an object with the choice as its only
key and `null` as its value.

## Main definitions

* `Json.Found`, `Json.Mismatch`, `Json.ReadError` — what can be wrong
* `Json.readString`, `Json.readBool`, `Json.readU32`, `Json.readChoice`, `Json.readList` —
  the readers of simple values
* `Json.Members.fold` — going through the members of an object
* `Json.read` — reading a whole text
-/

namespace KernelBridge.Json

/-- What a reader found in place of what it expected. -/
inductive Found where
  | null
  | boolean (value : Bool)
  | integer (value : Int)
  | binary (bits : UInt64)
  | string (text : String)
  | sequence
  | map
  deriving DecidableEq, Repr

/-- The name of what was found. -/
def Found.description : Found → String
  | .null => "null"
  | .boolean value => "boolean `" ++ toString value ++ "`"
  | .integer value => "integer `" ++ toString value ++ "`"
  | .binary bits => "floating point `" ++ Decimal.text bits ++ "`"
  | .string text => "string " ++ Text.quoted text
  | .sequence => "sequence"
  | .map => "map"

/-- How well-formed JSON fails to be a value of the expected type. -/
inductive Mismatch where
  | missingField (name : String)
  | duplicateField (name : String)
  | unknownVariant (name : String) (expected : List String)
  | invalidType (found : Found) (expected : String)
  | invalidValue (value : Int) (expected : String)
  | invalidLength (length : Nat) (expected : String)
  deriving DecidableEq, Repr

/-- A name between backticks. -/
def ticked (name : String) : String := "`" ++ name ++ "`"

/-- The choices a reader offers. -/
def offered : List String → String
  | [] => "there are no variants"
  | [only] => "expected " ++ ticked only
  | [first, second] => "expected " ++ ticked first ++ " or " ++ ticked second
  | names => "expected one of " ++ ", ".intercalate (names.map ticked)

def Mismatch.message : Mismatch → String
  | .missingField name => "missing field " ++ ticked name
  | .duplicateField name => "duplicate field " ++ ticked name
  | .unknownVariant name expected => "unknown variant " ++ ticked name ++ ", " ++ offered expected
  | .invalidType found expected =>
    "invalid type: " ++ found.description ++ ", expected " ++ expected
  | .invalidValue value expected =>
    "invalid value: integer `" ++ toString value ++ "`, expected " ++ expected
  | .invalidLength length expected =>
    "invalid length " ++ toString length ++ ", expected " ++ expected

/-- Why a text could not be read. -/
inductive ReadError where
  | fault (fault : Fault)
  | mismatch (mismatch : Mismatch)
  deriving DecidableEq, Repr

def ReadError.message : ReadError → String
  | .fault .malformed => "malformed JSON"
  | .fault .truncated => "unexpected end of JSON"
  | .mismatch cause => cause.message

/-- The result of a reader. -/
abbrev Reading (α : Type) := Except ReadError α

/-- A fault in place of a value. -/
def Reading.fail (fault : Fault) : Reading α := .error (.fault fault)

/-- A mismatch in place of a value. -/
def Reading.reject (mismatch : Mismatch) : Reading α := .error (.mismatch mismatch)

/-- The text of a string. -/
def StringToken.read (token : StringToken) : Reading String := token.text.mapError .fault

/-- The value of a numeral; one out of range is malformed. -/
def Numeral.read (numeral : Numeral) : Reading Number :=
  match numeral.value? with
  | some value => .ok value
  | none => .fail .malformed

/-- What a number is called. -/
def Number.found : Number → Found
  | .natural value => .integer value
  | .negative magnitude => .integer (-magnitude)
  | .binary bits => .binary bits

/-- The refusal of a node of another type. Only a scalar is read to be named. -/
def wrongType (expected : String) : Node → Reading α
  | .absent fault => .fail fault
  | .null => .reject (.invalidType .null expected)
  | .bool value => .reject (.invalidType (.boolean value) expected)
  | .brokenWord fault => .fail fault
  | .number numeral => do .reject (.invalidType (← numeral.read).found expected)
  | .brokenNumber fault => .fail fault
  | .string token => do .reject (.invalidType (.string (← token.read)) expected)
  | .array _ => .reject (.invalidType .sequence expected)
  | .object _ => .reject (.invalidType .map expected)

/-! ### Simple values -/

def readString : Node → Reading String
  | .string token => token.read
  | node => wrongType "a string" node

def readBool : Node → Reading Bool
  | .bool value => .ok value
  | node => wrongType "a boolean" node

def readUnit : Node → Reading Unit
  | .null => .ok ()
  | node => wrongType "unit" node

/-- A natural number below 2^32. -/
def readU32 : Node → Reading UInt32
  | .number numeral => do
    match ← numeral.read with
    | .natural value =>
      if value < UInt32.size then .ok (UInt32.ofNat value) else .reject (.invalidValue value "u32")
    | .negative magnitude => .reject (.invalidValue (-magnitude) "u32")
    | .binary bits => .reject (.invalidType (.binary bits) "u32")
  | node => wrongType "u32" node

/-- A value, or `null` for none. -/
def readOption (reader : Node → Reading α) : Node → Reading (Option α)
  | .null => .ok none
  | node => do return some (← reader node)

/-- The choice of that name. -/
def choose (choices : List (String × α)) (name : String) : Reading α :=
  match choices.lookup name with
  | some choice => .ok choice
  | none => .reject (.unknownVariant name (choices.map Prod.fst))

/-- One of the named choices. What is neither a string nor an object is malformed here, and so are
a second member and an empty object. In an object the choice is the key, and as in every object
something else in the place of a key, like `null` or a number, breaks the grammar: it is malformed,
and not a value of another type. -/
def readChoice (choices : List (String × α)) : Node → Reading α
  | .absent fault => .fail fault
  | .string token => do choose choices (← token.read)
  | .object (.next key value rest) => do
    let choice ← choose choices (← key.read)
    readUnit value
    match rest with
    | .closed => .ok choice
    | .missing fault => .fail fault
    | _ => .fail .malformed
  | .object (.noKey found) => .fail (keyFault found)
  | .object (.missing fault) => .fail fault
  | _ => .fail .malformed

/-! ### Lists and records -/

/-- The values of the elements, in order. -/
def Elements.collect (reader : Node → Reading α) : Elements → Reading (List α)
  | .closed => .ok []
  | .missing fault => .fail fault
  | .next value rest => do
    let first ← reader value
    return first :: (← rest.collect reader)

def readList (reader : Node → Reading α) : Node → Reading (List α)
  | .array elements => elements.collect reader
  | node => wrongType "a sequence" node

/-- The next element and the elements after it, if there is one. -/
def Elements.take (reader : Node → Reading α) : Elements → Reading (Option α × Elements)
  | .closed => .ok (none, .closed)
  | .missing fault => .fail fault
  | .next value rest => do return (some (← reader value), rest)

/-- The next element; where there is none, the record is too short. -/
def Elements.demand (reader : Node → Reading α) (tooShort : Mismatch) (elements : Elements) :
    Reading (α × Elements) := do
  match ← elements.take reader with
  | (some value, rest) => return (value, rest)
  | (none, _) => .reject tooShort

/-- The end of a record that is written as an array: further elements are malformed. -/
def Elements.finish : Elements → Reading Unit
  | .closed => .ok ()
  | .missing fault => .fail fault
  | .next _ _ => .fail .malformed

/-- The members one after the other, each by its key. -/
def Members.fold (step : σ → String → Node → Reading σ) : σ → Members → Reading σ
  | state, .closed => .ok state
  | _, .missing fault => .fail fault
  | _, .noKey found => .fail (keyFault found)
  | state, .next key value rest => do
    let name ← key.read
    let state ← step state name value
    rest.fold step state

/-- A member that no field of the record has the name of. -/
def skipMember (state : σ) (value : Node) : Reading σ := do
  (value.skip).mapError .fault
  return state

/-- The value of a field that may stand only once. -/
def readField (name : String) (seen : Option α) (reader : Node → Reading α) (value : Node) :
    Reading (Option α) := do
  if seen.isSome then .reject (.duplicateField name) else return some (← reader value)

/-- The value of a field that has to be there. -/
def requireField (name : String) : Option α → Reading α
  | some value => .ok value
  | none => .reject (.missingField name)

/-! ### Whole texts -/

/-- The value of a text that holds one value and nothing after it. -/
def read (reader : Node → Reading α) (text : String) : Reading α := do
  let (node, rest) := Node.ofTokens (tokens text.toList)
  let value ← reader node
  if rest.isEmpty then return value else .fail .malformed

end KernelBridge.Json
