import Mathlib.Data.List.Basic
import KernelBridge.Json.Number
import KernelBridge.Json.Writer
import KernelBridge.Proofs.Json.Lexeme
import KernelBridge.Proofs.Text.Numeral

/-!
# Tokens of written texts

Every token takes at least one character, so a text is cut into tokens without counting them.
What is written as a string or as a numeral is one token, and its value is what was written.

## Main definitions

* `Json.IsBounded` — a text in front of which a value ends
* `Json.writtenString`, `Json.writtenNumeral` — the tokens of written strings and numbers

## Main results

* `Json.tokens_cons`, `Json.tokens_append` — the tokens of a text from the left on
* `Json.tokens_writeString`, `Json.text_writtenString` — strings are read back
* `Json.tokens_toDigits`, `Json.value?_writtenNumeral` — numbers are read back
-/

namespace KernelBridge.Json

open Text (all_isDigit_toDigits)

/-! ### Every token takes a character -/

section Progress

variable {text : List Char}

theorem length_lexToken_le (c : Char) (rest : List Char) :
    (lexToken c rest).2.length ≤ rest.length := by
  cases hsound : (lexToken c rest).1.isSound with
  | false =>
    rw [lexToken_of_not_isSound hsound]
    exact Nat.zero_le _
  | true =>
    obtain ⟨found, hfound, htext⟩ := lexToken_sound hsound
    have hend : EndsNumeral [] := by simp [EndsNumeral]
    obtain ⟨first, more, rfl, -⟩ := lexToken_of_isWrittenAs hfound fun _ _ => hend
    rw [List.cons_append] at htext
    have hlength := congrArg List.length (List.cons.inj htext).2
    rw [List.length_append] at hlength
    omega

/-- All steps that are enough give the same tokens. -/
theorem tokensUpTo_eq_tokensUpTo {fuel fuel' : Nat} (h : text.length ≤ fuel)
    (h' : text.length ≤ fuel') : tokensUpTo fuel text = tokensUpTo fuel' text := by
  -- Every step leaves a shorter text, for which one step less is enough.
  induction fuel generalizing fuel' text with
  | zero =>
    rw [List.length_eq_zero_iff.mp (Nat.le_zero.mp h)]
    cases fuel' <;> rfl
  | succ fuel ih =>
    cases text with
    | nil => cases fuel' <;> rfl
    | cons c rest =>
      obtain ⟨fuel', rfl⟩ := Nat.exists_eq_add_of_lt (Nat.lt_of_lt_of_le (Nat.succ_pos _) h')
      rw [Nat.zero_add] at h' ⊢
      have hrest := Nat.le_of_succ_le_succ h
      have hrest' := Nat.le_of_succ_le_succ h'
      have hafter := length_lexToken_le c rest
      rw [tokensUpTo, tokensUpTo]
      split
      · exact ih hrest hrest'
      · exact congrArg _ (ih (Nat.le_trans hafter hrest) (Nat.le_trans hafter hrest'))

end Progress

/-! ### Tokens from the left on -/

@[simp] theorem tokens_nil : tokens [] = [] := rfl

/-- The tokens of a text that begins with one. -/
theorem tokens_cons {c : Char} (h : isSpace c = false) (rest : List Char) :
    tokens (c :: rest) = (lexToken c rest).1 :: tokens (lexToken c rest).2 := by
  rw [tokens, List.length_cons, tokensUpTo, if_neg (by simp [h])]
  exact congrArg _ (tokensUpTo_eq_tokensUpTo (length_lexToken_le c rest) (Nat.le_refl _))

/-- A text of a token is that token, and what follows it is cut up on its own. -/
theorem tokens_append {token : Token} {text rest : List Char} (h : token.IsWrittenAs text)
    (hrest : ∀ numeral, token = .number numeral → EndsNumeral rest) :
    tokens (text ++ rest) = token :: tokens rest := by
  obtain ⟨c, more, rfl, hspace, htoken⟩ := lexToken_of_isWrittenAs h hrest
  rw [List.cons_append, tokens_cons hspace, htoken]

section Punctuation

variable (rest : List Char)

@[simp] theorem tokens_openArray : tokens ('[' :: rest) = .openArray :: tokens rest :=
  tokens_cons (by decide) rest

@[simp] theorem tokens_closeArray : tokens (']' :: rest) = .closeArray :: tokens rest :=
  tokens_cons (by decide) rest

@[simp] theorem tokens_openObject : tokens ('\x7b' :: rest) = .openObject :: tokens rest :=
  tokens_cons (by decide) rest

@[simp] theorem tokens_closeObject : tokens ('\x7d' :: rest) = .closeObject :: tokens rest :=
  tokens_cons (by decide) rest

@[simp] theorem tokens_comma : tokens (',' :: rest) = .comma :: tokens rest :=
  tokens_cons (by decide) rest

@[simp] theorem tokens_colon : tokens (':' :: rest) = .colon :: tokens rest :=
  tokens_cons (by decide) rest

end Punctuation

/-! ### Strings -/

/-- The piece that a written character is read as: most control characters are written by
their numbers. -/
def writtenPiece (c : Char) : Piece :=
  if c.toNat < 0x20 ∧ c ∉ ['\n', '\r', '\t', Char.ofNat 8, Char.ofNat 12] then .unit c.toNat
  else .char c

/-- The token of a written string. -/
def writtenString (s : String) : StringToken := ⟨s.toList.map writtenPiece, none⟩

theorem unitOfHex?_twoHexDigits :
    ∀ n < 0x20, unitOfHex? '0' '0' (Nat.digitChar (n / 16)) (Nat.digitChar (n % 16)) = some n := by
  decide

/-- A character is written as one of the texts of its piece. -/
theorem isWrittenAs_escape (c : Char) : (writtenPiece c).IsWrittenAs (escape c) := by
  unfold escape
  by_cases hquote : c = '"'
  · subst hquote
    exact .letter rfl
  by_cases hbackslash : c = '\\'
  · subst hbackslash
    exact .letter rfl
  by_cases hn : c = '\n'
  · subst hn
    exact .letter rfl
  by_cases hr : c = '\r'
  · subst hr
    exact .letter rfl
  by_cases ht : c = '\t'
  · subst ht
    exact .letter rfl
  by_cases hb : c.toNat = 8
  · obtain rfl : c = Char.ofNat 8 := by rw [← hb, Char.ofNat_toNat]
    exact .letter rfl
  by_cases hf : c.toNat = 12
  · obtain rfl : c = Char.ofNat 12 := by rw [← hf, Char.ofNat_toNat]
    exact .letter rfl
  rw [if_neg hquote, if_neg hbackslash, if_neg hn, if_neg hr, if_neg ht, if_neg hb, if_neg hf]
  have hletters : c ∉ ['\n', '\r', '\t', Char.ofNat 8, Char.ofNat 12] := by
    have hb' : c ≠ Char.ofNat 8 := fun heq => hb (by rw [heq]; rfl)
    have hf' : c ≠ Char.ofNat 12 := fun heq => hf (by rw [heq]; rfl)
    simp [hn, hr, ht, hb', hf']
  by_cases hcontrol : c.toNat < 0x20
  · rw [if_pos hcontrol, writtenPiece, if_pos ⟨hcontrol, hletters⟩]
    exact .hex (unitOfHex?_twoHexDigits _ hcontrol)
  · rw [if_neg hcontrol, writtenPiece, if_neg fun h => hcontrol h.1]
    exact .plain hquote hbackslash (Nat.le_of_not_lt hcontrol)

/-- A string is written as one of the texts of its token. -/
theorem isWrittenAs_writeString (s : String) :
    (writtenString s).IsWrittenAs (writeString s).toList := by
  have hpieces (s : List Char) : ArePieces (s.map writtenPiece) (s.flatMap escape) := by
    induction s with
    | nil => exact .nil
    | cons c s ih => exact .cons (isWrittenAs_escape c) ih
  exact ⟨rfl, s.toList.flatMap escape, hpieces s.toList, by simp [writeString]⟩

/-- A written string is one token. -/
theorem tokens_writeString (s : String) (rest : List Char) :
    tokens ((writeString s).toList ++ rest) = .string (writtenString s) :: tokens rest :=
  @tokens_append (.string (writtenString s)) _ _ (isWrittenAs_writeString s) (by simp)

/-- The number of a control character is no half of a pair. -/
theorem joinPieces_unit {code : Nat} (h : code < 0x20) (rest : List Piece) :
    joinPieces (.unit code :: rest) none =
      (joinPieces rest none).map (Char.ofNat code :: ·) := by
  have hleading : isLeading code = false := by
    simp only [isLeading, Bool.and_eq_false_iff, decide_eq_false_iff_not]
    omega
  have htrailing : isTrailing code = false := by
    simp only [isTrailing, Bool.and_eq_false_iff, decide_eq_false_iff_not]
    omega
  rcases rest with - | ⟨next | next, rest⟩
  · simp [joinPieces, hleading, htrailing, Except.map]
  · rw [joinPieces, joinPieces, hleading, htrailing]
    cases joinPieces rest none <;> rfl
  · rw [joinPieces, hleading, htrailing]
    rfl

/-- The token of a written string holds its text. -/
theorem text_writtenString (s : String) : (writtenString s).text = .ok s := by
  have hjoin (text : List Char) : joinPieces (text.map writtenPiece) none = .ok text := by
    induction text with
    | nil => rfl
    | cons c rest ih =>
      rw [List.map_cons, writtenPiece]
      split
      · next h =>
        rw [joinPieces_unit h.1, ih, Char.ofNat_toNat]
        rfl
      · rw [joinPieces, ih]
        rfl
  rw [StringToken.text, writtenString, hjoin]
  exact congrArg Except.ok String.ofList_toList

/-! ### Numbers -/

/-- A value ends in front of the text: nothing of it could belong to a numeral. -/
def IsBounded : List Char → Prop
  | [] => True
  | c :: _ => c ∈ [',', ']', '\x7d']

/-- The numeral of a written number. -/
def writtenNumeral (n : Nat) : Numeral := ⟨false, Nat.toDigits 10 n, [], none⟩

section Number

variable {n : Nat} {rest : List Char}

theorem IsBounded.head {c : Char} (h : IsBounded (c :: rest)) :
    c.isDigit = false ∧ c ≠ '.' ∧ isExponentMark c = false := by
  simp only [IsBounded, List.mem_cons, List.not_mem_nil, or_false] at h
  rcases h with rfl | rfl | rfl <;> decide

theorem IsBounded.endsNumeral (h : IsBounded rest) : EndsNumeral rest := by
  cases rest with
  | nil => simp [EndsNumeral]
  | cons c rest =>
    intro d hd
    obtain rfl := Option.some.inj hd
    exact h.head

/-- A number is written as one of the texts of its numeral. -/
theorem isWrittenAs_toDigits (n : Nat) : (writtenNumeral n).IsWrittenAs (Nat.toDigits 10 n) := by
  refine ⟨⟨Nat.toDigits_ne_nil, List.all_eq_true.mp (all_isDigit_toDigits n)⟩,
    (Text.isPlain_toDigits n).needed, by simp [writtenNumeral], [], rfl, ?_⟩
  simp [writtenNumeral, fractionText]

/-- A written number is one token. -/
theorem tokens_toDigits (h : IsBounded rest) :
    tokens (Nat.toDigits 10 n ++ rest) = .number (writtenNumeral n) :: tokens rest :=
  @tokens_append (.number (writtenNumeral n)) _ _ (isWrittenAs_toDigits n) fun _ _ => h.endsNumeral

theorem le_foldl_digits (significand : Nat) (digits : List Char) :
    significand ≤ digits.foldl (fun value digit => 10 * value + Text.digitValue digit)
      significand := by
  induction digits generalizing significand with
  | nil => exact Nat.le_refl _
  | cons digit rest ih =>
    rw [List.foldl_cons]
    have hrest := ih (10 * significand + Text.digitValue digit)
    omega

/-- Digits are taken as long as their value fits. -/
theorem takeDigits_of_le {limit significand : Nat} {digits : List Char}
    (h : digits.foldl (fun value digit => 10 * value + Text.digitValue digit) significand ≤ limit) :
    takeDigits limit significand digits =
      (digits.foldl (fun value digit => 10 * value + Text.digitValue digit) significand, []) := by
  induction digits generalizing significand with
  | nil => rfl
  | cons digit rest ih =>
    rw [List.foldl_cons] at h ⊢
    have hfits := Nat.le_trans (le_foldl_digits _ rest) h
    rw [takeDigits]
    exact (if_pos hfits).trans (ih h)

/-- The numeral of a written number has its value, if 64 bits hold it. -/
theorem value?_writtenNumeral (h : n ≤ maxSignificand) :
    (writtenNumeral n).value? = some (.natural n) := by
  have hvalue : (Nat.toDigits 10 n).foldl
      (fun value digit => 10 * value + Text.digitValue digit) 0 = n :=
    Nat.ofDigitChars_toDigits (by decide) (by decide)
  have htaken : takeDigits maxSignificand 0 (Nat.toDigits 10 n) = (n, []) := by
    rw [takeDigits_of_le (by rw [hvalue]; exact h), hvalue]
  simp [Numeral.value?, writtenNumeral, htaken, integer]

end Number

end KernelBridge.Json
