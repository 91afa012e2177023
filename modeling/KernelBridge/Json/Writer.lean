import KernelBridge.Text.Quoted

/-!
# Writing JSON

The compact form of JSON: no blanks, the members in the order given, and strings with as
few escapes as the grammar allows.

## Main definitions

* `Json.writeString` — a string
* `Json.writeArray`, `Json.writeObject` — written values between brackets
-/

namespace KernelBridge.Json

/-- Two hexadecimal digits of a number below 256. -/
def twoHexDigits (n : Nat) : List Char :=
  [Nat.digitChar (n / 16), Nat.digitChar (n % 16)]

/-- One character as a string shows it: quotes, backslashes and the characters below the
space are escaped, by a letter where there is one. -/
def escape (c : Char) : List Char :=
  if c = '"' then ['\\', '"'] else if c = '\\' then ['\\', '\\']
  else if c = '\n' then ['\\', 'n'] else if c = '\r' then ['\\', 'r']
  else if c = '\t' then ['\\', 't']
  else if c.toNat = 8 then ['\\', 'b'] else if c.toNat = 12 then ['\\', 'f']
  else if c.toNat < 0x20 then '\\' :: 'u' :: '0' :: '0' :: twoHexDigits c.toNat
  else [c]

/-- The string between quotes. -/
def writeString (s : String) : String :=
  "\"" ++ String.ofList (s.toList.flatMap escape) ++ "\""

/-- The written values between square brackets. -/
def writeArray (values : List String) : String := "[" ++ ",".intercalate values ++ "]"

/-- The written members between braces. -/
def writeObject (members : List (String × String)) : String :=
  "\x7b" ++ ",".intercalate (members.map fun (key, value) => writeString key ++ ":" ++ value)
    ++ "\x7d"

end KernelBridge.Json
