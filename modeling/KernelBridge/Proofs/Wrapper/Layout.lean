import Mathlib.Data.List.Basic
import KernelBridge.Wrapper.Source

/-!
# Lines of a layout

A page is written step by step with the depth carried along. Here it is taken apart into the
lines that it shows, so that what stands in a text can be read from its lines.

## Main definitions

* `Layout.depthAfter` — the depth after some steps
* `Layout.rendered` — the lines that steps lay out, with their margins
* `Layout.joined` — lines with their ends
* `Layout.firstLine`, `Layout.belowFirstLine` — a text cut at its first line feed

## Main results

* `Layout.text_eq_joined` — a layout shows its lines one below the other
* `Layout.rendered_append` — the lines of steps that follow each other
* `Layout.text_append` — steps that end at the margin leave what follows as it is
* `Layout.splitOn_joined` — lines without line feeds are found again in their text
-/

namespace KernelBridge.Layout

variable {α : Type}

theorem Step.map_map {β γ : Type} (f : α → β) (g : β → γ) (step : Step α) :
    (step.map f).map g = step.map (g ∘ f) := by
  cases step <;> rfl

/-! ### Depth -/

/-- The depth after one step. -/
def Step.depthAfter (depth : Nat) : Step α → Nat
  | indent => depth + 1
  | dedent => depth - 1
  | _ => depth

/-- The depth after some steps. -/
def depthAfter (depth : Nat) (steps : List (Step α)) : Nat := steps.foldl Step.depthAfter depth

/-- The steps are lines alone, blank ones or others. -/
def IsLevel (steps : List (Step α)) : Prop := ∀ step ∈ steps, step ≠ .indent ∧ step ≠ .dedent

section Level

variable {steps more : List (Step α)} {depth : Nat}

@[simp] theorem isLevel_nil : IsLevel ([] : List (Step α)) := by simp [IsLevel]

@[simp] theorem isLevel_line_cons {content : α} :
    IsLevel (.line content :: steps) ↔ IsLevel steps := by
  simp [IsLevel]

@[simp] theorem isLevel_blank_cons : IsLevel (.blank :: steps) ↔ IsLevel steps := by
  simp [IsLevel]

@[simp] theorem isLevel_append : IsLevel (steps ++ more) ↔ IsLevel steps ∧ IsLevel more :=
  List.forall_mem_append

theorem isLevel_map_line {β : Type} (xs : List β) (f : β → α) :
    IsLevel (xs.map fun x => Step.line (f x)) := by
  simp [IsLevel]

theorem isLevel_flatMap {β : Type} {xs : List β} {f : β → List (Step α)}
    (h : ∀ x ∈ xs, IsLevel (f x)) : IsLevel (xs.flatMap f) := by
  intro step hstep
  obtain ⟨x, hx, hmem⟩ := List.mem_flatMap.mp hstep
  exact h x hx step hmem

@[simp] theorem isLevel_map_map {β : Type} {f : α → β} :
    IsLevel (steps.map (Step.map f)) ↔ IsLevel steps := by
  refine List.forall_mem_map.trans (forall₂_congr fun step _ => ?_)
  cases step <;> simp [Step.map]

theorem depthAfter_append :
    depthAfter depth (steps ++ more) = depthAfter (depthAfter depth steps) more :=
  List.foldl_append

theorem depthAfter_of_isLevel (h : IsLevel steps) : depthAfter depth steps = depth := by
  induction steps with
  | nil => rfl
  | cons step rest ih =>
    obtain ⟨⟨hindent, hdedent⟩, hrest⟩ := List.forall_mem_cons.mp h
    have hstep : step.depthAfter depth = depth := by
      cases step <;> simp_all [Step.depthAfter]
    rw [depthAfter, List.foldl_cons, hstep]
    exact ih hrest

end Level

/-! ### Lines -/

/-- The lines that steps lay out from a depth on, with their margins. -/
def rendered (depth : Nat) : List (Step String) → List String
  | [] => []
  | .line line :: rest => indented depth line :: rendered depth rest
  | .blank :: rest => "" :: rendered depth rest
  | .indent :: rest => rendered (depth + 1) rest
  | .dedent :: rest => rendered (depth - 1) rest

theorem indented_zero (line : String) : indented 0 line = line := by
  by_cases hempty : line = "" <;> simp [indented, margin, hempty]

/-- The lines one below the other, each with its end. -/
def joined (lines : List String) : String := String.join (lines.map (· ++ "\n"))

@[simp] theorem joined_nil : joined [] = "" := rfl

@[simp] theorem joined_cons (line : String) (rest : List String) :
    joined (line :: rest) = line ++ "\n" ++ joined rest := by
  simp [joined]

theorem joined_append (lines more : List String) :
    joined (lines ++ more) = joined lines ++ joined more := by
  induction lines with
  | nil => simp
  | cons line rest ih => simp [ih, String.append_assoc]

theorem writeAll_text (page : Page) (steps : List (Step String)) :
    (page.writeAll steps).text = page.text ++ joined (rendered page.depth steps) := by
  induction steps generalizing page with
  | nil => simp [rendered]
  | cons step rest ih =>
    rw [Page.writeAll_cons, ih]
    cases step <;> simp [Page.write, rendered, String.append_assoc]

theorem writeAll_depth (page : Page) (steps : List (Step String)) :
    (page.writeAll steps).depth = depthAfter page.depth steps := by
  induction steps generalizing page with
  | nil => rfl
  | cons step rest ih =>
    rw [Page.writeAll_cons, ih]
    cases step <;> rfl

/-- A layout shows its lines one below the other. -/
theorem text_eq_joined (steps : List (Step String)) : text steps = joined (rendered 0 steps) := by
  simp [text, writeAll_text]

theorem rendered_append (depth : Nat) (steps more : List (Step String)) :
    rendered depth (steps ++ more) =
      rendered depth steps ++ rendered (depthAfter depth steps) more := by
  induction steps generalizing depth with
  | nil => rfl
  | cons step rest ih =>
    cases step <;> simp [rendered, ih, depthAfter, Step.depthAfter]

/-- What follows steps that end at the margin begins there, so its text does not depend on
them. -/
theorem text_append {steps more : List (Step String)} (h : depthAfter 0 steps = 0) :
    text (steps ++ more) = text steps ++ text more := by
  rw [text_eq_joined, text_eq_joined, text_eq_joined, rendered_append, h, joined_append]

theorem text_flatMap {xs : List α} {f : α → List (Step String)}
    (h : ∀ x ∈ xs, depthAfter 0 (f x) = 0) :
    text (xs.flatMap f) = String.join (xs.map fun x => text (f x)) := by
  induction xs with
  | nil => rfl
  | cons x rest ih =>
    obtain ⟨hx, hrest⟩ := List.forall_mem_cons.mp h
    rw [List.flatMap_cons, text_append hx, ih hrest, List.map_cons, String.join_cons]

section Nested

variable {depth : Nat} {front inner back : List (Step String)} (hfront : IsLevel front)
  (hinner : IsLevel inner)

include hfront hinner

/-- Level steps between an indentation and its end are laid out one level deeper. -/
theorem rendered_nested :
    rendered depth (front ++ .indent :: inner ++ .dedent :: back) =
      rendered depth front ++ rendered (depth + 1) inner ++ rendered depth back := by
  rw [rendered_append, rendered_append, depthAfter_append, depthAfter_of_isLevel hfront,
    show depthAfter depth (.indent :: inner) = depthAfter (depth + 1) inner from rfl,
    depthAfter_of_isLevel hinner]
  rfl

theorem depthAfter_nested (hback : IsLevel back) :
    depthAfter depth (front ++ .indent :: inner ++ .dedent :: back) = depth := by
  rw [depthAfter_append, depthAfter_append, depthAfter_of_isLevel hfront,
    show depthAfter depth (.indent :: inner) = depthAfter (depth + 1) inner from rfl,
    depthAfter_of_isLevel hinner]
  exact depthAfter_of_isLevel hback

end Nested

/-- A line of level steps is blank, or shows one of their contents behind the margin. -/
theorem eq_of_mem_rendered {depth : Nat} {steps : List (Step α)} {f : α → String} {line : String}
    (level : IsLevel steps) (h : line ∈ rendered depth (steps.map (Step.map f))) :
    line = "" ∨ ∃ content ∈ contents steps, line = indented depth (f content) := by
  induction steps with
  | nil => simp [rendered] at h
  | cons step rest ih =>
    obtain ⟨⟨hindent, hdedent⟩, hrest⟩ := List.forall_mem_cons.mp level
    cases step with
    | line content =>
      rcases List.mem_cons.mp h with rfl | h
      · exact .inr ⟨content, List.mem_cons_self, rfl⟩
      · obtain hblank | ⟨other, hother, rfl⟩ := ih hrest h
        · exact .inl hblank
        · exact .inr ⟨other, List.mem_cons_of_mem _ hother, rfl⟩
    | blank =>
      rcases List.mem_cons.mp h with hblank | h
      · exact .inl hblank
      · exact ih hrest h
    | indent => exact absurd rfl hindent
    | dedent => exact absurd rfl hdedent

/-- In a text every line is followed by another one, if only by the empty last. -/
theorem toList_joined (lines : List String) :
    (joined lines).toList = ['\n'].intercalate (lines.map String.toList ++ [[]]) := by
  induction lines with
  | nil => rfl
  | cons line rest ih =>
    obtain ⟨next, others, hnext⟩ :
        ∃ next others, rest.map String.toList ++ [[]] = next :: others := by
      cases rest <;> simp
    rw [List.map_cons, List.cons_append, hnext, List.intercalate_cons_cons, ← hnext, ← ih]
    simp

/-- Lines without line feeds are found again in their text. After the last end nothing
follows. -/
theorem splitOn_joined {lines : List String} (h : ∀ line ∈ lines, '\n' ∉ line.toList) :
    (joined lines).toList.splitOn '\n' = lines.map String.toList ++ [[]] := by
  rw [toList_joined]
  refine List.splitOn_intercalate '\n' ?_ (by simp)
  intro piece hpiece
  rcases List.mem_append.mp hpiece with hline | hlast
  · obtain ⟨line, hmem, rfl⟩ := List.mem_map.mp hline
    exact h line hmem
  · simp [List.mem_singleton.mp hlast]

/-! ### The first line -/

/-- The first line of a text, without its end. -/
def firstLine (text : String) : String := String.ofList (text.toList.takeWhile (· != '\n'))

/-- What follows the first line and its end. -/
def belowFirstLine (text : String) : String :=
  String.ofList ((text.toList.dropWhile (· != '\n')).drop 1)

section FirstLine

variable {line rest : String}

theorem forall_ne_of_not_mem {c : Char} {text : List Char} (h : c ∉ text) :
    ∀ d ∈ text, (d != c) = true := by
  intro d hd
  have hne : d ≠ c := by
    rintro rfl
    exact h hd
  simpa using hne

theorem firstLine_append (h : '\n' ∉ line.toList) : firstLine (line ++ "\n" ++ rest) = line := by
  simp [firstLine, List.takeWhile_append_of_pos (forall_ne_of_not_mem h)]

theorem belowFirstLine_append (h : '\n' ∉ line.toList) :
    belowFirstLine (line ++ "\n" ++ rest) = rest := by
  simp [belowFirstLine, List.dropWhile_append_of_pos (forall_ne_of_not_mem h)]

/-- A text with a line feed has its first line whatever follows it. -/
theorem belowFirstLine_append_of_mem (h : '\n' ∈ line.toList) :
    belowFirstLine (line ++ rest) = belowFirstLine line ++ rest := by
  obtain ⟨before, after, hsplit, hbefore⟩ := List.eq_append_cons_of_mem h
  simp [belowFirstLine, hsplit, List.dropWhile_append_of_pos (forall_ne_of_not_mem hbefore),
    String.ofList_append]

end FirstLine

end KernelBridge.Layout
