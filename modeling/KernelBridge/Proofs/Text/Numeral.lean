import Mathlib.Data.List.Basic
import Mathlib.Data.List.Induction
import KernelBridge.Text.Unsigned

/-!
# Numerals and the numbers they denote

A numeral may have a plus sign in front and zeros that it does not need. Among the numerals of one
number there is exactly one without either, and it is the one that numbers are printed as.

## Main definitions

* `Text.Denotes` — the text is a numeral of the number
* `Text.IsPlain` — a numeral with neither a sign nor a needless zero

## Main results

* `Text.readUnsigned_eq_some_iff` — the numerals that are read
* `Text.Denotes.toDigits_eq_iff` — the numeral that a number is printed as
-/

namespace KernelBridge.Text

/-- The text is a numeral of the number: one or more digits, with or without a plus sign. -/
def Denotes (text : List Char) (n : Nat) : Prop :=
  ∃ digits, (text = digits ∨ text = '+' :: digits) ∧ digits ≠ [] ∧
    digits.all Char.isDigit = true ∧ digitsValue digits = n

/-- The numeral has neither a sign nor a zero that another digit follows. -/
structure IsPlain (text : List Char) : Prop where
  unsigned : text.head? ≠ some '+'
  needed : text.head? = some '0' → text = ['0']

variable {text digits : List Char} {limit n : Nat}

/-! ### Reading -/

/-- A text is read as a number iff it is a numeral of it and the number is within the limit. -/
theorem readUnsigned_eq_some_iff :
    readUnsigned limit text = some n ↔ Denotes text n ∧ n ≤ limit := by
  constructor
  · intro h
    rw [readUnsigned] at h
    split_ifs at h with hbad hlimit
    obtain rfl := Option.some.inj h
    rw [Bool.or_eq_true, not_or, Bool.not_eq_true, Bool.not_eq_true, Bool.not_eq_false'] at hbad
    obtain ⟨hsome, hdigits⟩ := hbad
    refine ⟨⟨unsignedDigits text, ?_, by simpa using hsome, hdigits, rfl⟩, hlimit⟩
    unfold unsignedDigits
    split
    · exact .inr rfl
    · exact .inl rfl
  · rintro ⟨⟨digits, htext, hsome, hdigits, rfl⟩, hlimit⟩
    have hunsigned : unsignedDigits text = digits := by
      rcases htext with rfl | rfl
      · exact unsignedDigits_of_all_isDigit hdigits
      · rfl
    simp [readUnsigned, hunsigned, hsome, hdigits, hlimit]

theorem readUnsigned_eq_none_iff :
    readUnsigned limit text = none ↔ ∀ n ≤ limit, ¬ Denotes text n := by
  rw [Option.eq_none_iff_forall_ne_some]
  simp only [ne_eq, readUnsigned_eq_some_iff, not_and']

/-! ### Printing -/

theorem all_isDigit_toDigits (n : Nat) : (Nat.toDigits 10 n).all Char.isDigit = true :=
  List.all_eq_true.mpr fun _ hc => Nat.isDigit_of_mem_toDigits (by decide) (by decide) hc

/-- No number but zero begins with a zero. -/
theorem head?_toDigits_ne (h : 0 < n) : (Nat.toDigits 10 n).head? ≠ some '0' := by
  induction n using Nat.strongRecOn with
  | ind n ih =>
    by_cases hdigit : n < 10
    · rw [Nat.toDigits_of_lt_base hdigit]
      clear ih
      revert h
      revert n
      decide
    · have hless : n / 10 < n := Nat.div_lt_self h (by decide)
      have hpos : 0 < n / 10 := Nat.div_pos (Nat.le_of_not_lt hdigit) (by decide)
      rw [Nat.toDigits_of_base_le (by decide) (Nat.le_of_not_lt hdigit),
        List.head?_append_of_ne_nil _ Nat.toDigits_ne_nil]
      exact ih _ hless hpos

theorem isPlain_toDigits (n : Nat) : IsPlain (Nat.toDigits 10 n) := by
  constructor
  · intro hsign
    have hmem := List.mem_of_mem_head? hsign
    have hdigit := Nat.isDigit_of_mem_toDigits (by decide) (by decide) hmem
    exact absurd hdigit (by decide)
  · intro hzero
    rcases Nat.eq_zero_or_pos n with rfl | hpos
    · rfl
    · exact absurd hzero (head?_toDigits_ne hpos)

theorem digitValue_lt {c : Char} (h : c.isDigit = true) : digitValue c < 10 := by
  obtain ⟨-, hle⟩ := Char.isDigit_iff_toNat.mp h
  have hnine : '9'.toNat = 57 := rfl
  have hzero : '0'.toNat = 48 := rfl
  rw [digitValue]
  omega

theorem digitChar_digitValue {c : Char} (h : c.isDigit = true) :
    Nat.digitChar (digitValue c) = c := by
  have hvalue := digitValue_lt h
  obtain ⟨hle, -⟩ := Char.isDigit_iff_toNat.mp h
  have hzero : '0'.toNat = 48 := rfl
  apply Char.toNat_inj.mp
  rw [Nat.toNat_digitChar_of_lt_ten hvalue, digitValue]
  omega

/-- Digits without needless zeros are printed as they stand. -/
theorem toDigits_digitsValue (hsome : digits ≠ []) (hdigits : digits.all Char.isDigit = true)
    (hplain : digits.head? = some '0' → digits = ['0']) :
    Nat.toDigits 10 (digitsValue digits) = digits := by
  -- From the right: the last digit is the value modulo ten.
  induction digits using List.reverseRecOn with
  | nil => exact absurd rfl hsome
  | append_singleton front last ih =>
    rw [List.all_append, Bool.and_eq_true] at hdigits
    obtain ⟨hfront, hlast⟩ := hdigits
    have hlast : last.isDigit = true := by simpa using hlast
    have hvalue : digitsValue (front ++ [last]) = 10 * digitsValue front + digitValue last := by
      simp [digitsValue]
    cases front with
    | nil =>
      rw [hvalue, show digitsValue [] = 0 from rfl, Nat.mul_zero, Nat.zero_add,
        Nat.toDigits_of_lt_base (digitValue_lt hlast), digitChar_digitValue hlast]
      rfl
    | cons first more =>
      have hfirst : first ≠ '0' := by
        rintro rfl
        have hsingle := congrArg List.length (hplain rfl)
        simp at hsingle
      have hprinted := ih (by simp) hfront fun hzero => absurd (Option.some.inj hzero) hfirst
      have hpos : 0 < digitsValue (first :: more) := by
        rcases Nat.eq_zero_or_pos (digitsValue (first :: more)) with hzero | hpos
        · rw [hzero] at hprinted
          exact absurd (List.cons.inj hprinted).1.symm hfirst
        · exact hpos
      have hjoined := Nat.toDigits_append_toDigits (b := 10) (by decide) hpos (digitValue_lt hlast)
      rw [hvalue, ← hjoined, hprinted, Nat.toDigits_of_lt_base (digitValue_lt hlast),
        digitChar_digitValue hlast]

/-- Among the numerals of a number it is printed as the plain one. -/
theorem Denotes.toDigits_eq_iff (h : Denotes text n) : Nat.toDigits 10 n = text ↔ IsPlain text := by
  constructor
  · rintro rfl
    exact isPlain_toDigits n
  · rintro ⟨hunsigned, hneeded⟩
    obtain ⟨digits, rfl | rfl, hsome, hdigits, rfl⟩ := h
    · exact toDigits_digitsValue hsome hdigits hneeded
    · exact absurd rfl hunsigned

end KernelBridge.Text
