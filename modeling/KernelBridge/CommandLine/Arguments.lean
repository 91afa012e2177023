/-!
# Command line arguments

The arguments are read from left to right. An option's value is attached to it or is the
next argument; a separate value may not begin with a dash, unless it is the dash alone. No
option may be given twice.

## Main definitions

* `Arguments` — what a run was asked for
* `Request` — a run, or only a text about the program
* `Request.parse` — the request of a list of arguments
* `helpText`, `usageText`, `versionText` — the texts about the program
-/

namespace KernelBridge.CommandLine

/-- What a run was asked for. -/
structure Arguments where
  /-- The file with the signatures; a lone dash is the standard input. -/
  signatures : String
  target : String := "host"
  /-- The file for the source; without one it goes to the standard output. -/
  output : Option String := none
  flushCache : Bool := false
  declareKernels : Bool := true
  /-- Nothing is written. -/
  checkOnly : Bool := false
  deriving DecidableEq, Repr

/-- What the program was started for. -/
inductive Request where
  | run (arguments : Arguments)
  | help
  | version
  deriving DecidableEq, Repr

/-- The arguments make no sense. -/
structure UsageError where
  deriving DecidableEq, Repr

/-- The options with a value. -/
inductive Setting where
  | signatures
  | target
  | output
  deriving DecidableEq, Repr

/-- The options without a value. -/
inductive Flag where
  | flushCache
  | omitDeclarations
  | checkOnly
  deriving DecidableEq, Repr

/-- What one argument is. -/
inductive Word where
  /-- An option whose value is the next argument. -/
  | setting (setting : Setting)
  | assigned (setting : Setting) (value : String)
  | flag (flag : Flag)
  | help
  | version
  /-- Two dashes: no option may follow. -/
  | ending
  /-- Anything else. -/
  | unknown
  deriving DecidableEq, Repr

/-- The setting or its assignment. -/
def Word.ofSetting (setting : Setting) : (value : Option (List Char)) → Word
  | none => .setting setting
  | some value => .assigned setting (String.ofList value)

/-- A word that takes no value. -/
def Word.alone (word : Word) : (value : Option (List Char)) → Word
  | none => word
  | some _ => .unknown

/-- What a long option is, given the text after its first equals sign if there is one. -/
def Word.ofLong (name : String) (value : Option (List Char)) : Word :=
  match name with
  | "signatures" => ofSetting .signatures value
  | "target" => ofSetting .target value
  | "output" => ofSetting .output value
  | "flush-cache" => alone (.flag .flushCache) value
  | "no-extern-decls" => alone (.flag .omitDeclarations) value
  | "check" => alone (.flag .checkOnly) value
  | "help" => alone .help value
  | "version" => alone .version value
  | _ => .unknown

/-- The value attached to a short option. An equals sign in front of it does not count. -/
def attached : List Char → Option (List Char)
  | [] => none
  | '=' :: value => some value
  | value => some value

/-- What a short option is, given the text after its letter. -/
def Word.ofShort (letter : Char) (rest : List Char) : Word :=
  match letter with
  | 's' => ofSetting .signatures (attached rest)
  | 't' => ofSetting .target (attached rest)
  | 'o' => ofSetting .output (attached rest)
  | 'h' => .help
  | 'V' => .version
  | _ => .unknown

/-- The text before the first equals sign, and the text after it if there is one. -/
def splitAssignment (text : List Char) : List Char × Option (List Char) :=
  let (name, rest) := text.span (· != '=')
  match rest with
  | [] => (name, none)
  | _ :: value => (name, some value)

/-- What an argument is. -/
def Word.parse (argument : String) : Word :=
  match argument.toList with
  | ['-', '-'] => .ending
  | '-' :: '-' :: text =>
    let (name, value) := splitAssignment text
    ofLong (String.ofList name) value
  | '-' :: letter :: rest => ofShort letter rest
  | _ => .unknown

/-- What has been given so far. -/
structure Given where
  signatures : Option String := none
  target : Option String := none
  output : Option String := none
  flushCache : Bool := false
  omitDeclarations : Bool := false
  checkOnly : Bool := false
  deriving DecidableEq, Repr

namespace Given

/-- One more option with a value. No file has an empty name. -/
def set (given : Given) (setting : Setting) (value : String) : Except UsageError Given :=
  match setting with
  | .signatures =>
    if given.signatures.isSome || value.isEmpty then .error ⟨⟩
    else .ok { given with signatures := some value }
  | .target =>
    if given.target.isSome then .error ⟨⟩ else .ok { given with target := some value }
  | .output =>
    if given.output.isSome || value.isEmpty then .error ⟨⟩
    else .ok { given with output := some value }

/-- One more option without a value. -/
def raise (given : Given) (flag : Flag) : Except UsageError Given :=
  match flag with
  | .flushCache =>
    if given.flushCache then .error ⟨⟩ else .ok { given with flushCache := true }
  | .omitDeclarations =>
    if given.omitDeclarations then .error ⟨⟩ else .ok { given with omitDeclarations := true }
  | .checkOnly => if given.checkOnly then .error ⟨⟩ else .ok { given with checkOnly := true }

/-- The run that was asked for. The signatures have to be given. -/
def finish (given : Given) : Except UsageError Request :=
  match given.signatures with
  | none => .error ⟨⟩
  | some signatures => .ok (.run {
      signatures
      target := given.target.getD "host"
      output := given.output
      flushCache := given.flushCache
      declareKernels := !given.omitDeclarations
      checkOnly := given.checkOnly })

end Given

/-- A separate value may not begin with a dash, unless it is the dash alone. -/
def isSeparateValue (argument : String) : Bool :=
  argument == "-" || argument.toList.head? != some '-'

namespace Request

/-- The request of the arguments that follow what has been given. -/
def parseFrom (given : Given) : List String → Except UsageError Request
  | [] => given.finish
  | argument :: rest =>
    match Word.parse argument, rest with
    | .setting setting, value :: rest =>
      if isSeparateValue value then do parseFrom (← given.set setting value) rest
      else .error ⟨⟩
    | .assigned setting value, rest => do parseFrom (← given.set setting value) rest
    | .flag flag, rest => do parseFrom (← given.raise flag) rest
    | .help, _ => .ok .help
    | .version, _ => .ok .version
    | .ending, [] => given.finish
    | _, _ => .error ⟨⟩

/-- The request of a list of arguments. -/
def parse (arguments : List String) : Except UsageError Request := parseFrom {} arguments

end Request

def versionText : String := "torchbridge-gen 0.1.0\n"

def usageText : String := "Usage: torchbridge-gen [OPTIONS] --signatures <FILE>\n"

def helpText : String := "\n".intercalate [
  "Generate PyTorch wrapper entry points for compiled kernels",
  "",
  usageText,
  "Options:",
  "  -s, --signatures <FILE>  Signature document (JSON); use '-' for stdin",
  "  -t, --target <TARGET>    Target string, e.g. `host`, `host-cuda-user_context`, " ++
    "`host-metal` [default: host]",
  "  -o, --output <OUTPUT>    Output file (default: stdout)",
  "      --flush-cache        Flush the memoization cache after every kernel call " ++
    "(also enabled by FLUSH_MEMOIZE_CACHE=1)",
  "      --no-extern-decls    Do not forward-declare the kernel entry points",
  "      --check              Validate the signatures and target without writing any source",
  "  -h, --help               Print help",
  "  -V, --version            Print version",
  ""]

end KernelBridge.CommandLine
