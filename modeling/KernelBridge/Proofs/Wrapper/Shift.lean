import Mathlib.Data.List.Infix
import Mathlib.Data.List.Induction
import KernelBridge.Proofs.Wrapper.Reading

/-!
# Layouts at other depths

What steps lay out does not depend on the depth at which they are written: further in, their
lines move to the right, and nothing else changes. This holds as long as the steps never leave
the depth at which they began. There is no depth below zero, so an end of an indentation that
none was opened for is lost, and the depth afterwards is greater than the steps count up to.

## Main definitions

* `Layout.tally` — the depth after some steps if depths could fall below zero
* `Layout.lowest` — how far below zero the tally falls on the way
* `Layout.StaysAbove` — the tally never falls below zero
* `Layout.shifted` — a text with blanks in front of its lines
* `Backend.parts` — the parts of a body that a backend fills in

## Main results

* `Layout.depthAfter_eq` — the depth after any steps
* `Layout.Page.writeAll_text_of_staysAbove` — the text of steps at any depth
* `layout_shifts_with_depth` — depth and text together, and the parts of a backend
-/

namespace KernelBridge

namespace Layout

/-! ### The depth after any steps -/

section Depth

variable {α : Type}

/-- What a step adds to the depth where nothing keeps it from falling. -/
def Step.change : Step α → Int
  | indent => 1
  | dedent => -1
  | _ => 0

/-- A step changes the depth by its own amount, but not below zero. -/
theorem Step.depthAfter_eq_max (step : Step α) (depth : Nat) :
    (step.depthAfter depth : Int) = max 0 (depth + step.change) := by
  cases step <;> simp only [depthAfter, change] <;> omega

variable [DecidableEq α]

/-- The depth after some steps if it could fall below zero: one more for every indentation and
one less for every end of one. -/
def tally (start : Int) (steps : List (Step α)) : Int :=
  start + steps.count .indent - steps.count .dedent

/-- The lowest value below zero that the tally has on the way, and zero if there is none. -/
def lowest (start : Int) (steps : List (Step α)) : Int :=
  (steps.inits.map (tally start)).foldl min 0

/-- The tally never falls below zero. -/
def StaysAbove (start : Int) (steps : List (Step α)) : Prop :=
  ∀ part, part <+: steps → 0 ≤ tally start part

variable {start : Int} {step : Step α} {steps more : List (Step α)}

@[simp] theorem tally_nil : tally start ([] : List (Step α)) = start := by simp [tally]

theorem tally_cons : tally start (step :: steps) = tally (start + step.change) steps := by
  cases step <;> simp [tally, Step.change] <;> omega

theorem tally_append : tally start (steps ++ more) = tally (tally start steps) more := by
  simp only [tally, List.count_append]
  omega

theorem tally_concat : tally start (steps ++ [step]) = tally start steps + step.change := by
  rw [tally_append, tally_cons, tally_nil]

@[simp] theorem lowest_nil : lowest start ([] : List (Step α)) = min 0 start := by simp [lowest]

theorem lowest_concat :
    lowest start (steps ++ [step]) = min (lowest start steps) (tally start (steps ++ [step])) := by
  simp [lowest]

/-- The depth after any steps is their tally, raised by as much as the tally falls below zero on
the way. -/
theorem depthAfter_eq (start : Nat) (steps : List (Step α)) :
    (depthAfter start steps : Int) = tally start steps - lowest start steps := by
  -- From the right, as the last step acts on the depth that all others have left.
  induction steps using List.reverseRecOn with
  | nil =>
    rw [lowest_nil, tally_nil, depthAfter, List.foldl_nil]
    omega
  | append_singleton steps step ih =>
    have hlast : depthAfter start (steps ++ [step]) = step.depthAfter (depthAfter start steps) := by
      rw [depthAfter_append]
      rfl
    rw [hlast, step.depthAfter_eq_max, ih, lowest_concat, tally_concat]
    omega

/-- Two of three ends are lost, and the indentation behind them counts in full. -/
example : depthAfter 1 [.dedent, .dedent, .dedent, (.indent : Step Unit)] = 1 ∧
    tally 1 [.dedent, .dedent, .dedent, (.indent : Step Unit)] = -1 ∧
    lowest 1 [.dedent, .dedent, .dedent, (.indent : Step Unit)] = -2 := by
  decide

theorem le_foldl_min_iff {bound first : Int} {values : List Int} :
    bound ≤ values.foldl min first ↔ bound ≤ first ∧ ∀ value ∈ values, bound ≤ value := by
  induction values generalizing first with
  | nil => simp
  | cons value rest ih => rw [List.foldl_cons, ih, Int.le_min, List.forall_mem_cons, and_assoc]

/-- Nothing is lost exactly if the tally never falls below zero. -/
theorem lowest_eq_zero_iff : lowest start steps = 0 ↔ StaysAbove start steps := by
  have hbound (bound : Int) : bound ≤ lowest start steps ↔
      bound ≤ 0 ∧ ∀ part, part <+: steps → bound ≤ tally start part := by
    simp only [lowest, le_foldl_min_iff, List.forall_mem_map, List.mem_inits]
  have hnonpos : lowest start steps ≤ 0 := ((hbound _).mp (Int.le_refl _)).1
  have habove : 0 ≤ lowest start steps ↔ StaysAbove start steps :=
    (hbound 0).trans (and_iff_right (Int.le_refl 0))
  rw [← habove]
  omega

namespace StaysAbove

theorem start_nonneg (h : StaysAbove start steps) : 0 ≤ start := by
  simpa using h [] List.nil_prefix

theorem of_cons (h : StaysAbove start (step :: steps)) :
    StaysAbove (start + step.change) steps := by
  intro part hpart
  rw [← tally_cons]
  exact h _ (List.cons_prefix_cons.mpr ⟨rfl, hpart⟩)

theorem mono {other : Int} (h : StaysAbove start steps) (hle : start ≤ other) :
    StaysAbove other steps := by
  intro part hpart
  have hpart := h part hpart
  simp only [tally] at hpart ⊢
  omega

end StaysAbove

theorem staysAbove_zero_iff :
    StaysAbove 0 steps ↔ ∀ part, part <+: steps → part.count .dedent ≤ part.count .indent := by
  refine forall₂_congr fun part _ => ?_
  rw [tally]
  omega

theorem staysAbove_of_isLevel (level : IsLevel steps) : StaysAbove 0 steps := by
  rw [staysAbove_zero_iff]
  intro part hpart
  have hdedent : part.count .dedent = 0 :=
    List.count_eq_zero.mpr fun hmem => (level _ (hpart.subset hmem)).2 rfl
  rw [hdedent]
  exact Nat.zero_le _

end Depth

/-! ### Texts further in -/

/-- The line with blanks in front, if it is not empty. -/
def spaced (width : Nat) (line : List Char) : List Char :=
  if line = [] then [] else List.replicate width ' ' ++ line

/-- The text with blanks in front of each of its lines that is not empty. -/
def shifted (width : Nat) (text : String) : String :=
  String.ofList (['\n'].intercalate ((text.toList.splitOn '\n').map (spaced width)))

section Shifted

variable {lines moved : List String} {steps : List (Step String)}

theorem toList_indented (depth : Nat) (line : String) :
    (indented depth line).toList = spaced (4 * depth) line.toList := by
  by_cases hempty : line = "" <;> simp [indented, spaced, margin, hempty]

theorem spaced_spaced (width more : Nat) (line : List Char) :
    spaced width (spaced more line) = spaced (width + more) line := by
  by_cases hempty : line = []
  · simp [spaced, hempty]
  · simp [spaced, hempty, ← List.append_assoc]

theorem toList_indented_add (depth start : Nat) (line : String) :
    (indented (depth + start) line).toList = spaced (4 * depth) (indented start line).toList := by
  rw [toList_indented, toList_indented, spaced_spaced, Nat.mul_add]

/-- Steps that stay at their depth lay out the same lines at a greater one, further in. -/
theorem rendered_add (depth : Nat) {start : Nat} (h : StaysAbove start steps) :
    (rendered (depth + start) steps).map String.toList =
      (rendered start steps).map fun line => spaced (4 * depth) line.toList := by
  induction steps generalizing start with
  | nil => rfl
  | cons step rest ih =>
    have hrest : StaysAbove (start + step.change) rest := h.of_cons
    -- The step does not fall below zero, so it does the same further in.
    have hopen : 0 ≤ start + step.change := hrest.start_nonneg
    have hstart : (step.depthAfter start : Int) = start + step.change := by
      rw [step.depthAfter_eq_max]
      omega
    rw [← hstart] at hrest
    cases step with
    | line content =>
      exact congrArg₂ List.cons (toList_indented_add depth start content) (ih hrest)
    | blank => exact congrArg (List.cons []) (ih hrest)
    | indent => exact ih hrest
    | dedent =>
      have hdepth : depth + start - 1 = depth + (start - 1) := by
        simp only [Step.change] at hopen
        omega
      rw [rendered, hdepth]
      exact ih hrest

/-- Lines without line feeds of their own are found again in their text, and moved one by
one. -/
theorem shifted_joined {width : Nat} (h : ∀ line ∈ lines, '\n' ∉ line.toList)
    (hmoved : moved.map String.toList = lines.map fun line => spaced width line.toList) :
    shifted width (joined lines) = joined moved := by
  have hlast : spaced width [] = [] := if_pos rfl
  apply String.toList_injective
  rw [shifted, splitOn_joined h, String.toList_ofList, toList_joined, List.map_append,
    List.map_map, List.map_singleton, hlast, hmoved]
  rfl

theorem lineFeed_not_mem_rendered (h : ∀ line ∈ contents steps, '\n' ∉ line.toList)
    (depth : Nat) : ∀ line ∈ rendered depth steps, '\n' ∉ line.toList := by
  induction steps generalizing depth with
  | nil => simp [rendered]
  | cons step rest ih =>
    cases step with
    | line content =>
      obtain ⟨hcontent, hrest⟩ := List.forall_mem_cons.mp h
      refine List.forall_mem_cons.mpr ⟨?_, ih hrest depth⟩
      rw [toList_indented, spaced]
      split
      · simp
      · simp [hcontent, List.mem_replicate]
    | blank => exact List.forall_mem_cons.mpr ⟨by simp, ih h depth⟩
    | indent => exact ih h (depth + 1)
    | dedent => exact ih h (depth - 1)

namespace Page

variable (page : Page)

/-- What is written depends on the page by its depth alone. -/
theorem writeAll_text_eq_append (steps : List (Step String)) :
    (page.writeAll steps).text = page.text ++ (writeAll ⟨"", page.depth⟩ steps).text := by
  rw [writeAll_text, writeAll_text, String.empty_append]

/-- Steps that stay at their depth add the text that they have at the margin, further in. -/
theorem writeAll_text_of_staysAbove (h : StaysAbove 0 steps)
    (hlines : ∀ line ∈ contents steps, '\n' ∉ line.toList) :
    (page.writeAll steps).text = page.text ++ shifted (4 * page.depth) (Layout.text steps) := by
  rw [writeAll_text, text_eq_joined,
    shifted_joined (lineFeed_not_mem_rendered hlines 0) (rendered_add page.depth h)]
  rfl

/-- The end of an indentation at the margin might as well be left out. -/
theorem writeAll_surplus {before : List (Step String)} (h : (page.writeAll before).depth = 0)
    (after : List (Step String)) :
    page.writeAll (before ++ .dedent :: after) = page.writeAll (before ++ after) := by
  have hlost : (page.writeAll before).write .dedent = page.writeAll before := by
    cases hpage : page.writeAll before with
    | mk text depth =>
      rw [hpage] at h
      subst h
      rfl
  rw [writeAll_append, writeAll_cons, hlost, writeAll_append]

/-- Level steps write the same lines at every depth, and stay there. -/
theorem writeAll_of_isLevel (level : IsLevel steps)
    (hlines : ∀ line ∈ contents steps, '\n' ∉ line.toList) :
    page.writeAll steps =
      { page with text := page.text ++ shifted (4 * page.depth) (Layout.text steps) } := by
  have htext := page.writeAll_text_of_staysAbove (staysAbove_of_isLevel level) hlines
  have hdepth : (page.writeAll steps).depth = page.depth := by
    rw [writeAll_depth, depthAfter_of_isLevel level]
  rw [← htext, ← hdepth]

end Page

end Shifted

end Layout

/-! ### The parts of a backend -/

open Layout (Step Page IsLevel contents tally lowest shifted)

namespace Backend

/-- The parts of a body that a backend fills in: it sets up the user context, checks where the
tensors are, and checks what the kernel left behind. -/
def parts (backend : Backend) (buffers : List Parameter) : List (List (Step Statement)) :=
  [backend.contextSetup, buffers.flatMap backend.residencyCheck, backend.postChecks buffers]

variable {backend : Backend} {buffers : List Parameter}

theorem isLevel_parts : ∀ part ∈ backend.parts buffers, IsLevel part := by
  simp only [parts, List.forall_mem_cons]
  exact ⟨isLevel_contextSetup, isLevel_residencyChecks, isLevel_postChecks, by simp⟩

theorem isRead_parts (named : ∀ buffer ∈ buffers, Cpp.isIdentifier buffer.name = true) :
    ∀ part ∈ backend.parts buffers, ∀ statement ∈ contents part, statement.IsRead := by
  simp only [parts, List.forall_mem_cons]
  exact ⟨Statement.isRead_contextSetup backend, isRead_residencyChecks named,
    isRead_postChecks named, by simp⟩

end Backend

/-- **Layouts at other depths.** What steps add to a page depends on its depth alone. Steps that
nowhere end more indentations than they have begun add the text that they lay out at the margin,
with four blanks for each level of the page's depth in front of the lines that are not empty, and
they change the depth by the indentations that they leave open. After any steps the depth is what
indentations and their ends come to, less the lowest value below zero that this has on the way:
an end that comes at the margin is lost, as if it were not there. So the parts that a backend
fills in have the same lines at every depth, and leave it as it was. -/
theorem layout_shifts_with_depth :
    (∀ (page : Page) (steps : List (Step String)),
      (page.writeAll steps).text = page.text ++ (Page.writeAll ⟨"", page.depth⟩ steps).text) ∧
    (∀ (page : Page) (steps : List (Step String)),
      (∀ line ∈ contents steps, '\n' ∉ line.toList) →
      (∀ part, part <+: steps → part.count .dedent ≤ part.count .indent) →
        (page.writeAll steps).text =
            page.text ++ shifted (4 * page.depth) (Page.writeAll {} steps).text ∧
          ((page.writeAll steps).depth : Int) =
            page.depth + steps.count .indent - steps.count .dedent) ∧
    (∀ (page : Page) (steps : List (Step String)),
      ((page.writeAll steps).depth : Int) = tally page.depth steps - lowest page.depth steps) ∧
    (∀ (page : Page) (before after : List (Step String)), (page.writeAll before).depth = 0 →
      page.writeAll (before ++ .dedent :: after) = page.writeAll (before ++ after)) ∧
    ∀ (backend : Backend) (buffers : List Parameter),
      (∀ buffer ∈ buffers, ∃ name, buffer.name = Cpp.identifier name) →
        ∀ part ∈ backend.parts buffers, ∀ page : Page,
          page.writeAll (part.map (Step.map Statement.text)) =
            ⟨page.text ++ shifted (4 * page.depth)
              (Page.writeAll {} (part.map (Step.map Statement.text))).text, page.depth⟩ := by
  have hdepth (page : Page) (steps : List (Step String)) :
      ((page.writeAll steps).depth : Int) = tally page.depth steps - lowest page.depth steps := by
    rw [Layout.writeAll_depth, Layout.depthAfter_eq]
  refine ⟨Page.writeAll_text_eq_append, ?_, hdepth, fun page before after h =>
    page.writeAll_surplus h after, ?_⟩
  · intro page steps hlines hparts
    have habove : Layout.StaysAbove 0 steps := Layout.staysAbove_zero_iff.mpr hparts
    have hlowest : lowest page.depth steps = 0 := by
      rw [Layout.lowest_eq_zero_iff]
      exact habove.mono (by omega)
    refine ⟨page.writeAll_text_of_staysAbove habove hlines, ?_⟩
    rw [hdepth, hlowest, tally, Int.sub_zero]
  · intro backend buffers hnames part hpart page
    have named : ∀ buffer ∈ buffers, Cpp.isIdentifier buffer.name = true := by
      intro buffer hbuffer
      obtain ⟨name, hname⟩ := hnames buffer hbuffer
      rw [hname, Cpp.isIdentifier_identifier]
    refine page.writeAll_of_isLevel ?_ ?_
    · exact Layout.isLevel_map_map.mpr (Backend.isLevel_parts part hpart)
    · rw [Layout.contents_map_map, List.forall_mem_map]
      intro statement hstatement
      exact (Backend.isRead_parts named part hpart statement hstatement).2

/-- A block with a blank line at depth two, and what a device checks of a buffer called `in.put`
at depth three. -/
theorem layout_shifts_of_block :
    ((Page.writeAll ⟨"x;\n", 2⟩
        [.line "\x7b", .indent, .line "y;", .blank, .dedent, .line "\x7d"]).text =
      "x;\n        \x7b\n            y;\n\n        \x7d\n") ∧
    Page.writeAll ⟨"", 3⟩ ((Backend.cuda.postChecks [⟨"in_put", .buffer, .f32, false⟩]).map
        (Step.map Statement.text)) =
      ⟨shifted 12 (Page.writeAll {} ((Backend.cuda.postChecks
        [⟨"in_put", .buffer, .f32, false⟩]).map (Step.map Statement.text))).text, 3⟩ := by
  obtain ⟨-, hshifts, -, -, hparts⟩ := layout_shifts_with_depth
  constructor
  · refine (hshifts ⟨"x;\n", 2⟩ _ (by decide) fun part hpart => ?_).1.trans (by decide +kernel)
    have hall : ∀ part ∈ List.inits [Step.line "\x7b", .indent, .line "y;", .blank, .dedent,
        .line "\x7d"], part.count .dedent ≤ part.count .indent := by decide
    exact hall part ((List.mem_inits _ _).mpr hpart)
  · refine (hparts .cuda [⟨"in_put", .buffer, .f32, false⟩] ?_ _ ?_ ⟨"", 3⟩).trans ?_
    · exact List.forall_mem_singleton.mpr ⟨"in.put", by decide⟩
    · simp [Backend.parts]
    · simp

end KernelBridge
