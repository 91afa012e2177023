/-!
# Layout

Source is laid out line by line. The depth of indentation persists between lines, and a
line without text carries none of it.

## Main definitions

* `Layout.Step` — a line, a blank line, or a change of depth
* `Layout.contents` — what stands in the lines
* `Layout.Page` — the text so far and the depth
* `Layout.Page.writeAll` — the page after some steps
-/

namespace KernelBridge.Layout

/-- One step of laying out lines with some content. -/
inductive Step (Content : Type) where
  | line (content : Content)
  | blank
  | indent
  | dedent
  deriving DecidableEq, Repr

/-- The step with another content in its line. -/
def Step.map (f : α → β) : Step α → Step β
  | line content => .line (f content)
  | blank => .blank
  | indent => .indent
  | dedent => .dedent

/-- What stands in a line. -/
def Step.content? : Step α → Option α
  | line content => some content
  | _ => none

/-- What stands in the lines, in order. -/
def contents (steps : List (Step α)) : List α := steps.filterMap Step.content?

section Contents

variable (content : α) (steps more : List (Step α))

@[simp] theorem contents_nil : contents ([] : List (Step α)) = [] := rfl

@[simp] theorem contents_line_cons :
    contents (.line content :: steps) = content :: contents steps :=
  rfl

@[simp] theorem contents_blank_cons : contents (.blank :: steps) = contents steps := rfl

@[simp] theorem contents_indent_cons : contents (.indent :: steps) = contents steps := rfl

@[simp] theorem contents_dedent_cons : contents (.dedent :: steps) = contents steps := rfl

@[simp] theorem contents_append : contents (steps ++ more) = contents steps ++ contents more :=
  List.filterMap_append

@[simp] theorem contents_map_map (f : α → β) :
    contents (steps.map (Step.map f)) = (contents steps).map f := by
  induction steps with
  | nil => rfl
  | cons step rest ih => cases step <;> simp [Step.map, ih]

@[simp] theorem contents_map_line (xs : List β) (f : β → α) :
    contents (xs.map fun x => Step.line (f x)) = xs.map f := by
  induction xs with
  | nil => rfl
  | cons x rest ih => simp [ih]

@[simp] theorem contents_reverse : contents steps.reverse = (contents steps).reverse :=
  List.filterMap_reverse

@[simp] theorem contents_flatMap (xs : List β) (f : β → List (Step α)) :
    contents (xs.flatMap f) = xs.flatMap fun x => contents (f x) := by
  induction xs with
  | nil => rfl
  | cons x rest ih => simp [ih]

end Contents

/-- The text so far and the depth of the next line. -/
structure Page where
  text : String := ""
  depth : Nat := 0
  deriving DecidableEq, Repr

/-- The spaces in front of a line. -/
def margin (depth : Nat) : String := String.ofList (List.replicate (4 * depth) ' ')

/-- The line at a depth, without its end. -/
def indented (depth : Nat) (line : String) : String :=
  if line.isEmpty then "" else margin depth ++ line

namespace Page

/-- The page after one step. There is no depth below zero. -/
def write (page : Page) : Step String → Page
  | .line line => { page with text := page.text ++ indented page.depth line ++ "\n" }
  | .blank => { page with text := page.text ++ "\n" }
  | .indent => { page with depth := page.depth + 1 }
  | .dedent => { page with depth := page.depth - 1 }

/-- The page after some steps. -/
def writeAll (page : Page) (steps : List (Step String)) : Page := steps.foldl write page

/-- The pages after each of the steps. -/
def history (page : Page) : List (Step String) → List Page
  | [] => []
  | step :: rest => page.write step :: (page.write step).history rest

@[simp] theorem writeAll_nil (page : Page) : page.writeAll [] = page := rfl

@[simp] theorem writeAll_cons (page : Page) (step : Step String) (rest : List (Step String)) :
    page.writeAll (step :: rest) = (page.write step).writeAll rest := rfl

theorem writeAll_append (page : Page) (first second : List (Step String)) :
    page.writeAll (first ++ second) = (page.writeAll first).writeAll second :=
  List.foldl_append

end Page

/-- The text that some steps lay out from the margin on. -/
def text (steps : List (Step String)) : String := (Page.writeAll {} steps).text

end KernelBridge.Layout
