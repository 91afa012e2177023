/-!
# ASCII letters

Names of backends, levels and switches are compared without regard to the case of
ASCII letters; other letters keep their case.

## Main definitions

* `Text.lowered` — a string with its ASCII capitals made small
* `Text.sameLetters` — equality up to the case of ASCII letters
-/

namespace KernelBridge.Text

/-- The string with every ASCII capital letter made small. -/
def lowered (s : String) : String := String.ofList (s.toList.map Char.toLower)

/-- Two strings that differ at most in the case of ASCII letters. -/
def sameLetters (s t : String) : Bool := lowered s == lowered t

end KernelBridge.Text
