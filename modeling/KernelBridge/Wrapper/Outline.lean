import KernelBridge.Cpp.Name
import KernelBridge.Text.Cut

/-!
# Outlines of source

What a compiler sees first in a generated file is its outline: which blocks are opened and
closed, and which functions stand in them. The outline is read from the text alone, line by
line, and a text whose blocks are not nested has none.

## Main definitions

* `Block` — a namespace, a block with C linkage, or a wrapper
* `Line`, `Line.read` — what a line is, by its text
* `outline` — the lines of a nested text, each with the blocks around it
* `declarations`, `definitions` — the functions in an outline
* `openedNamespaces` — the namespaces in an outline
* `IsClashFree` — the names of functions and namespaces differ
-/

namespace KernelBridge

/-! ### Lines -/

/-- What stands between two texts at the two ends of a line. -/
def between (front back : String) (line : List Char) : Option (List Char) :=
  (line.dropPrefix? front.toList).bind (List.dropSuffix? · back.toList)

/-- What a block is, by its first line. -/
inductive Block where
  | space (name : String)
  | linkage
  | wrapper (name : String) (parameters : List String)
  deriving DecidableEq, Repr

/-- What a block's last line shows of it. -/
inductive Block.Ending where
  | space (name : String)
  | linkage
  | wrapper
  deriving DecidableEq, Repr

/-- The ending that belongs to a block. -/
def Block.ending : Block → Block.Ending
  | space name => .space name
  | linkage => .linkage
  | wrapper _ _ => .wrapper

/-- What a line is. -/
inductive Line where
  | opens (block : Block)
  | closes (ending : Block.Ending)
  /-- The declaration of a kernel. -/
  | declares (name : String) (parameters : List String)
  /-- The call of a kernel whose status a wrapper keeps. -/
  | calls (name : String) (arguments : List String)
  /-- The local that holds a view. -/
  | wraps (view : String)
  | other
  deriving DecidableEq, Repr

namespace Line

/-- The entries of a list of parameters or arguments. -/
def readEntries (text : List Char) : List String :=
  if text.isEmpty then [] else (Text.cut ',' ' ' text).map String.ofList

/-- What stands before the opening parenthesis. -/
def readName (text : List Char) : String := String.ofList (text.takeWhile (· != '('))

/-- The entries after the opening parenthesis. -/
def readParameters (text : List Char) : List String :=
  readEntries ((text.dropWhile (· != '(')).drop 1)

/-- The name of the view in what follows the name of its template. -/
def readView (text : List Char) : String :=
  String.ofList (((text.dropWhile (· != '>')).drop 2).takeWhile (· != ' '))

/-- The block that a line opens. -/
def readOpening (line : List Char) : Option Block :=
  ((between "namespace " " \x7b" line).map fun name => .space (String.ofList name))
  <|> ((between "inline int " ") \x7b" line).map fun text =>
    .wrapper (readName text) (readParameters text))
  <|> if line = "extern \"C\" \x7b".toList then some .linkage else none

/-- The ending of the block that a line closes. -/
def readClosing (line : List Char) : Option Block.Ending :=
  ((between "\x7d  // namespace " "" line).map fun name => .space (String.ofList name))
  <|> (if line = "\x7d  // extern \"C\"".toList then some .linkage else none)
  <|> if line = "\x7d".toList then some .wrapper else none

/-- What a line is that neither opens nor closes a block. -/
def readPlain (line : List Char) : Option Line :=
  ((between "int " ");" line).map fun text => declares (readName text) (readParameters text))
  <|> ((between "    int err = " ");" line).map fun text =>
    calls (readName text) (readParameters text))
  <|> (between "    Halide::Runtime::Buffer<" ";" line).map fun text => wraps (readView text)

/-- What a line is, by its text. -/
def read (line : List Char) : Line :=
  ((readOpening line).map opens <|> (readClosing line).map closes <|> readPlain line).getD other

/-- The open blocks after a line, innermost first. A line that closes another block than the
innermost one leads nowhere. -/
def step (opened : List Block) : Line → Option (List Block)
  | opens block => some (block :: opened)
  | closes ending =>
    match opened with
    | block :: rest => if block.ending = ending then some rest else none
    | [] => none
  | _ => some opened

end Line

/-! ### Outlines -/

/-- A line and the blocks that are open where it stands, innermost first. -/
structure Placed where
  blocks : List Block
  line : Line
  deriving DecidableEq, Repr

/-- The lines with the blocks around them, given the blocks that are open at the first one.
There is no outline if a line closes another block than the innermost one, or if a block stays
open. -/
def outline (opened : List Block) : List Line → Option (List Placed)
  | [] => if opened.isEmpty then some [] else none
  | line :: rest => do
    let next ← line.step opened
    let placed ← outline next rest
    return ⟨opened, line⟩ :: placed

/-- What the lines of a text are. -/
def readLines (text : String) : List Line := (text.toList.splitOn '\n').map Line.read

/-- A function at the place where it stands. -/
structure Site where
  /-- The blocks around the function, from the outermost in. -/
  blocks : List Block
  name : String
  parameters : List String
  deriving DecidableEq, Repr

namespace Site

/-- The namespaces around the function, from the outermost in. -/
def namespaces (site : Site) : List String :=
  site.blocks.filterMap fun
    | .space name => some name
    | _ => none

/-- The qualified name of the function. -/
def qualifiedName (site : Site) : String :=
  Cpp.QualifiedName.text ⟨site.namespaces, site.name⟩

end Site

/-- A wrapper with the lines of its body. -/
structure Definition where
  site : Site
  body : List Line
  deriving DecidableEq, Repr

namespace Definition

/-- The kernels that a body calls, each with its arguments. -/
def calls (definition : Definition) : List (String × List String) :=
  definition.body.filterMap fun
    | .calls name arguments => some (name, arguments)
    | _ => none

/-- The views that a body sets up. -/
def views (definition : Definition) : List String :=
  definition.body.filterMap fun
    | .wraps view => some view
    | _ => none

end Definition

/-- The function that a line declares, at its place. -/
def Placed.declaration? (placed : Placed) : Option Site :=
  match placed.line with
  | .declares name parameters => some ⟨placed.blocks.reverse, name, parameters⟩
  | _ => none

/-- The kernels that an outline declares. -/
def declarations (placed : List Placed) : List Site := placed.filterMap Placed.declaration?

/-- The wrappers that an outline defines. The body of a wrapper ends with the first line that
closes a wrapper. -/
def definitions : List Placed → List Definition
  | [] => []
  | placed :: rest =>
    match placed.line with
    | .opens (.wrapper name parameters) =>
      ⟨⟨placed.blocks.reverse, name, parameters⟩,
        (rest.map Placed.line).takeWhile (· != .closes .wrapper)⟩ :: definitions rest
    | _ => definitions rest

/-- The namespaces that an outline opens, each as the list of names from the outermost in. -/
def openedNamespaces (placed : List Placed) : List (List String) :=
  placed.filterMap fun
    | ⟨blocks, .opens (.space name)⟩ =>
      some (Site.namespaces ⟨blocks.reverse, "", []⟩ ++ [name])
    | _ => none

/-- The qualified names of all functions in an outline. -/
def functionNames (placed : List Placed) : List String :=
  (declarations placed).map Site.qualifiedName
    ++ (definitions placed).map fun wrapper => wrapper.site.qualifiedName

/-- No two functions have one name, and no function has that of a namespace. -/
structure IsClashFree (placed : List Placed) : Prop where
  functions : (functionNames placed).Nodup
  namespaces : ∀ path ∈ openedNamespaces placed, "::".intercalate path ∉ functionNames placed

end KernelBridge
