import KernelBridge.Text.Ascii
import KernelBridge.Text.Blank

/-!
# Bridge configuration

A kernel runtime may ask the Metal bridge for another device than the one the host's
stream is bound to. The policy decides whether that is only reported or ends the process.

## Main definitions

* `Bridge.MismatchPolicy` — report, or abort
* `Bridge.Config.ofVariable` — the configuration that an environment variable asks for
-/

namespace KernelBridge.Bridge

/-- What to do about a device that is not the host stream's. -/
inductive MismatchPolicy where
  /-- Report an error and go on with the host's device. -/
  | report
  /-- Report an error and end the process. -/
  | abort
  deriving DecidableEq, Repr

/-- The name under which the policy is logged. -/
def MismatchPolicy.label : MismatchPolicy → String
  | report => "Report"
  | abort => "Abort"

structure Config where
  mismatchPolicy : MismatchPolicy := .report
  deriving DecidableEq, Repr

namespace Config

/-- The configuration that ends the process on a mismatch. -/
def strict : Config := ⟨.abort⟩

/-- The variable that asks for the strict configuration. -/
def strictVariable : String := "TORCHBRIDGE_STRICT_DEVICE_MATCH"

/-- The values that ask for it, in any case and with blanks around them. -/
def affirmations : List String := ["1", "true", "yes"]

/-- The configuration by the variable's value. -/
def ofVariable : Option String → Config
  | none => {}
  | some value =>
    if affirmations.contains (Text.lowered (Text.trimmed value)) then strict else {}

end Config

end KernelBridge.Bridge
