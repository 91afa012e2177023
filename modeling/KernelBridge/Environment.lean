/-!
# Environments

The environment variables that a program is started with.

## Main definitions

* `Environment` — the value of each variable that is set
-/

namespace KernelBridge

/-- The value of each variable, if it is set. -/
abbrev Environment := String → Option String

/-- The environment in which no variable is set. -/
def Environment.empty : Environment := fun _ => none

/-- The environment of a list of variables; of two with one name the first counts. -/
def Environment.ofList (settings : List (String × String)) : Environment :=
  fun name => settings.lookup name

/-- The environment with another value for one variable. -/
def Environment.set (env : Environment) (name : String) (value : Option String) : Environment :=
  fun other => if other = name then value else env other

end KernelBridge
