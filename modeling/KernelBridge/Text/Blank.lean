/-!
# Blanks

Which characters separate nothing and mean nothing at the ends of a name: the
characters with the property White_Space. Target strings, backend names and the
values of environment variables are trimmed of them.

## Main definitions

* `Text.isBlank` — the property White_Space
* `Text.trim` — a text without the blanks at its two ends
* `Text.IsTrimmed` — a text that neither begins nor ends with a blank

## Main results

* `Text.trim_eq_nil_iff` — only blanks trim to nothing
* `Text.trim_eq_self_iff` — trimming changes exactly the texts that are not trimmed
* `Text.trim_eq_self_of_countP_le` — trimming loses a blank, or nothing at all
-/

namespace KernelBridge.Text

/-- The 25 code points with the property White_Space. -/
def isBlank (c : Char) : Bool :=
  let n := c.toNat
  (0x9 ≤ n && n ≤ 0xD) || n == 0x20 || n == 0x85 || n == 0xA0 || n == 0x1680
    || (0x2000 ≤ n && n ≤ 0x200A) || n == 0x2028 || n == 0x2029 || n == 0x202F
    || n == 0x205F || n == 0x3000

/-- The text from its first character that is no blank on. -/
def trimStart (text : List Char) : List Char := text.dropWhile isBlank

/-- The text up to its last character that is no blank. -/
def trimEnd (text : List Char) : List Char := (text.reverse.dropWhile isBlank).reverse

/-- The text without the blanks at its two ends. -/
def trim (text : List Char) : List Char := trimEnd (trimStart text)

/-- The string without the blanks at its two ends. -/
def trimmed (s : String) : String := String.ofList (trim s.toList)

/-- The text neither begins nor ends with a blank. -/
def IsTrimmed (text : List Char) : Prop :=
  (∀ c ∈ text.head?, isBlank c = false) ∧ ∀ c ∈ text.getLast?, isBlank c = false

private theorem dropWhile_eq_nil {text : List Char} :
    text.dropWhile isBlank = [] ↔ ∀ c ∈ text, isBlank c = true := by
  induction text with
  | nil => simp
  | cons c rest ih => cases h : isBlank c <;> simp [h, ih]

theorem trimEnd_eq_nil_iff {text : List Char} :
    trimEnd text = [] ↔ ∀ c ∈ text, isBlank c = true := by
  rw [trimEnd, List.reverse_eq_nil_iff, dropWhile_eq_nil]
  simp

theorem trimStart_cons (c : Char) (rest : List Char) :
    trimStart (c :: rest) = if isBlank c then trimStart rest else c :: rest := by
  cases h : isBlank c <;> simp [trimStart, h]

theorem trim_eq_nil_iff {text : List Char} : trim text = [] ↔ ∀ c ∈ text, isBlank c = true := by
  rw [trim, trimEnd_eq_nil_iff]
  induction text with
  | nil => simp [trimStart]
  | cons c rest ih => rw [trimStart_cons]; cases h : isBlank c <;> simp [h, ih]

theorem isBlank_eq_false_of_isDigit {c : Char} (h : c.isDigit = true) : isBlank c = false := by
  have hrange : 48 ≤ c.toNat ∧ c.toNat ≤ 57 := by
    simpa [Char.isDigit, UInt32.le_iff_toNat_le] using h
  simp [isBlank]
  omega

/-! ### What trimming leaves -/

section Trim

variable {text : List Char}

theorem trimStart_sublist (text : List Char) : List.Sublist (trimStart text) text :=
  List.dropWhile_sublist isBlank

theorem trimEnd_sublist (text : List Char) : List.Sublist (trimEnd text) text := by
  rw [trimEnd, ← List.reverse_sublist, List.reverse_reverse]
  exact List.dropWhile_sublist isBlank

theorem trim_sublist (text : List Char) : List.Sublist (trim text) text :=
  (trimEnd_sublist _).trans (trimStart_sublist text)

theorem trimStart_eq_self_iff : trimStart text = text ↔ ∀ c ∈ text.head?, isBlank c = false := by
  cases text with
  | nil => simp [trimStart]
  | cons c rest =>
    rw [trimStart_cons]
    constructor
    · intro h
      by_cases hc : isBlank c
      · -- Without its first character the text is too short.
        rw [if_pos hc] at h
        have hlength := (trimStart_sublist rest).length_le
        rw [h] at hlength
        exact absurd hlength (by simp)
      · simpa using hc
    · intro h
      have hc : isBlank c = false := h c (by simp)
      simp [hc]

theorem trimEnd_eq_self_iff : trimEnd text = text ↔ ∀ c ∈ text.getLast?, isBlank c = false := by
  have hreverse : trimEnd text = text ↔ trimStart text.reverse = text.reverse := by
    rw [trimEnd, trimStart, List.reverse_eq_iff]
  rw [hreverse, trimStart_eq_self_iff, List.head?_reverse]

/-- Trimming keeps exactly the trimmed texts as they are. -/
theorem trim_eq_self_iff : trim text = text ↔ IsTrimmed text := by
  rw [IsTrimmed, ← trimStart_eq_self_iff, ← trimEnd_eq_self_iff]
  constructor
  · intro h
    have hstart : trimStart text = text := by
      apply (trimStart_sublist text).eq_of_length_le
      calc
        text.length = (trim text).length := by rw [h]
        _ ≤ (trimStart text).length := (trimEnd_sublist _).length_le
    refine ⟨hstart, ?_⟩
    rwa [trim, hstart] at h
  · rintro ⟨hstart, hend⟩
    rw [trim, hstart, hend]

private theorem countP_not_dropWhile (text : List Char) :
    (text.dropWhile isBlank).countP (!isBlank ·) = text.countP (!isBlank ·) := by
  induction text with
  | nil => rfl
  | cons c rest ih => cases h : isBlank c <;> simp [h, ih]

/-- The characters that are no blanks are still there after trimming. -/
theorem countP_not_trim (text : List Char) :
    (trim text).countP (!isBlank ·) = text.countP (!isBlank ·) := by
  rw [trim, trimEnd, List.countP_reverse, countP_not_dropWhile, List.countP_reverse, trimStart,
    countP_not_dropWhile]

/-- Trimming loses a blank, or nothing at all. -/
theorem trim_eq_self_of_countP_le (h : text.countP isBlank ≤ (trim text).countP isBlank) :
    trim text = text := by
  have hlength (l : List Char) : l.length = l.countP isBlank + l.countP (!isBlank ·) := by
    rw [List.length_eq_countP_add_countP isBlank]
    simp
  apply (trim_sublist text).eq_of_length_le
  rw [hlength, hlength (trim text), countP_not_trim]
  omega

end Trim

end KernelBridge.Text
