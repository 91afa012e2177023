import KernelBridge.Text.Printable

/-!
# Quoted texts

An error message shows a string that it found between double quotes. Quotes and
backslashes get a backslash, a few control characters have a letter of their own, and
every other character that cannot be shown by itself is written by its code point.

## Main definitions

* `Text.hexadecimal` — a number in small hexadecimal digits
* `Text.quoted` — the string between double quotes
-/

namespace KernelBridge.Text

/-- The number in hexadecimal digits, small letters, without leading zeros. -/
def hexadecimal (n : Nat) : String := String.ofList (Nat.toDigits 16 n)

/-- One character as a quoted text shows it. -/
def quotedChar (c : Char) : String :=
  if c = '"' then "\\\"" else if c = '\\' then "\\\\"
  else if c = '\t' then "\\t" else if c = '\r' then "\\r" else if c = '\n' then "\\n"
  else if c.toNat = 0 then "\\0"
  else if 0x20 ≤ c.toNat && c.toNat < 0x7F then c.toString
  else if extendsCluster c || !isPrintable c then "\\u\x7b" ++ hexadecimal c.toNat ++ "\x7d"
  else c.toString

/-- The string between double quotes. -/
def quoted (s : String) : String :=
  "\"" ++ String.join (s.toList.map quotedChar) ++ "\""

end KernelBridge.Text
