import Mathlib.Data.List.Basic

/-!
# Texts cut at a pair of characters

Qualified names are written with double colons between their segments, and the parameters of
a function with a comma and a space between them.

## Main definitions

* `Text.cut` — what stands between the pairs, taken from left to right

## Main results

* `Text.intercalate_cut` — the pieces with the pair between them make up the text
* `Text.cut_intercalate` — pieces without the first character of the pair are found again
-/

namespace KernelBridge.Text

/-- What stands between the pairs of the two characters, taken from left to right. -/
def cut (first second : Char) : List Char → List (List Char)
  | [] => [[]]
  | [c] => [[c]]
  | c :: d :: rest =>
    if c = first ∧ d = second then [] :: cut first second rest
    else (cut first second (d :: rest)).modifyHead (c :: ·)

variable {first second : Char} {piece rest : List Char}

theorem cut_ne_nil (first second : Char) (text : List Char) : cut first second text ≠ [] := by
  fun_induction cut first second text <;> simp_all

theorem cut_pair (first second : Char) (rest : List Char) :
    cut first second (first :: second :: rest) = [] :: cut first second rest := by
  simp [cut]

theorem cut_cons {c : Char} (h : c ≠ first) (rest : List Char) :
    cut first second (c :: rest) = (cut first second rest).modifyHead (c :: ·) := by
  cases rest with
  | nil => rfl
  | cons d rest => simp [cut, h]

/-- Without the first character of the pair there is one piece. -/
theorem cut_of_not_mem (h : first ∉ piece) : cut first second piece = [piece] := by
  induction piece with
  | nil => rfl
  | cons c piece ih =>
    obtain ⟨hc, hpiece⟩ := not_or.mp (List.mem_cons.not.mp h)
    rw [cut_cons (Ne.symm hc), ih hpiece, List.modifyHead_cons]

theorem cut_append (h : first ∉ piece) :
    cut first second (piece ++ first :: second :: rest) = piece :: cut first second rest := by
  induction piece with
  | nil => exact cut_pair first second rest
  | cons c piece ih =>
    obtain ⟨hc, hpiece⟩ := not_or.mp (List.mem_cons.not.mp h)
    rw [List.cons_append, cut_cons (Ne.symm hc), ih hpiece, List.modifyHead_cons]

/-- Pieces without the first character of the pair are found again between the pairs. -/
theorem cut_intercalate {pieces : List (List Char)} (h : ∀ piece ∈ pieces, first ∉ piece)
    (hsome : pieces ≠ []) : cut first second ([first, second].intercalate pieces) = pieces := by
  induction pieces with
  | nil => exact absurd rfl hsome
  | cons piece rest ih =>
    obtain ⟨hpiece, hrest⟩ := List.forall_mem_cons.mp h
    cases rest with
    | nil => simpa using cut_of_not_mem hpiece
    | cons next rest =>
      rw [List.intercalate_cons_cons, List.append_assoc]
      exact (cut_append hpiece).trans (congrArg (piece :: ·) (ih hrest (by simp)))

/-- The pieces before a pair are found again whatever follows it. -/
theorem cut_intercalate_append {pieces : List (List Char)} (h : ∀ piece ∈ pieces, first ∉ piece)
    (hsome : pieces ≠ []) (rest : List Char) :
    cut first second ([first, second].intercalate pieces ++ first :: second :: rest) =
      pieces ++ cut first second rest := by
  induction pieces with
  | nil => exact absurd rfl hsome
  | cons piece others ih =>
    obtain ⟨hpiece, hothers⟩ := List.forall_mem_cons.mp h
    cases others with
    | nil => simpa using cut_append hpiece
    | cons next others =>
      rw [List.intercalate_cons_cons, List.append_assoc, List.append_assoc]
      exact (cut_append hpiece).trans (congrArg (piece :: ·) (ih hothers (by simp)))

theorem intercalate_modifyHead {pieces : List (List Char)} (separator : List Char) (c : Char)
    (hsome : pieces ≠ []) :
    separator.intercalate (pieces.modifyHead (c :: ·)) = c :: separator.intercalate pieces := by
  cases pieces with
  | nil => exact absurd rfl hsome
  | cons piece rest => cases rest <;> simp

/-- The pieces with the pair between them make up the text. -/
theorem intercalate_cut (first second : Char) (text : List Char) :
    [first, second].intercalate (cut first second text) = text := by
  fun_induction cut first second text with
  | case1 => simp
  | case2 c => simp
  | case3 c d rest hpair ih =>
    obtain ⟨rfl, rfl⟩ := hpair
    cases hcut : cut c d rest with
    | nil => exact absurd hcut (cut_ne_nil c d rest)
    | cons piece pieces =>
      rw [hcut] at ih
      rw [List.intercalate_cons_cons, ih]
      rfl
  | case4 c d rest hpair ih =>
    rw [intercalate_modifyHead _ _ (cut_ne_nil _ _ _), ih]

end KernelBridge.Text
