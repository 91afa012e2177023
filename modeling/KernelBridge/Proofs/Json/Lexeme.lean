import Mathlib.Data.List.TakeWhile
import KernelBridge.Json.Token
import KernelBridge.Proofs.FirstFault

/-!
# How tokens are written

The grammar of JSON says what the text of a word, a numeral or a string looks like. The text at the
head of which a sound token is found begins with such a text of it. And every text of a token is
found again as that token, if nothing behind a numeral continues it.

## Main definitions

* `Json.Numeral.IsWrittenAs`, `Json.StringToken.IsWrittenAs`, `Json.Token.IsWrittenAs` — the texts
  of a token
* `Json.Token.isSound` — the token is not broken
* `Json.EndsNumeral` — a text that does not continue a numeral in front of it

## Main results

* `Json.lexToken_sound` — what is found is what is written
* `Json.lexToken_of_isWrittenAs` — what is written is found
-/

namespace KernelBridge.Json

open FirstFault

/-! ### Numerals -/

/-- One or more digits. -/
def IsDigits (text : List Char) : Prop := text ≠ [] ∧ ∀ c ∈ text, c.isDigit = true

/-- The text of a fraction: without digits there is no point either. -/
def fractionText : List Char → List Char
  | [] => []
  | digits => '.' :: digits

/-- The texts of a sign in front of an exponent. -/
def signTexts (negative : Bool) : List (List Char) := if negative then [['-']] else [[], ['+']]

/-- The text is one of the exponent's, or empty if there is none. -/
def IsExponent : Option (Bool × List Char) → List Char → Prop
  | none, text => text = []
  | some (negative, digits), text => IsDigits digits ∧
    ∃ mark sign, isExponentMark mark = true ∧ sign ∈ signTexts negative ∧
      text = mark :: (sign ++ digits)

/-- The text is one of the numeral's: it may not begin with a zero that another digit follows. -/
structure Numeral.IsWrittenAs (numeral : Numeral) (text : List Char) : Prop where
  whole : IsDigits numeral.whole
  needed : numeral.whole.head? = some '0' → numeral.whole = ['0']
  fraction : ∀ c ∈ numeral.fraction, c.isDigit = true
  exponent : ∃ exponent, IsExponent numeral.exponent exponent ∧
    text = (if numeral.negative then ['-'] else []) ++
      (numeral.whole ++ (fractionText numeral.fraction ++ exponent))

/-! ### Strings -/

/-- The text is one of the piece's: the character itself, a letter behind a backslash, or the
number of a code unit. -/
inductive Piece.IsWrittenAs : Piece → List Char → Prop where
  | plain {c : Char} : c ≠ '"' → c ≠ '\\' → 0x20 ≤ c.toNat → IsWrittenAs (.char c) [c]
  | letter {letter c : Char} : escaped? letter = some c → IsWrittenAs (.char c) ['\\', letter]
  | hex {a b c d : Char} {code : Nat} : unitOfHex? a b c d = some code →
      IsWrittenAs (.unit code) ['\\', 'u', a, b, c, d]

/-- The text is one of those that the pieces have one after the other. -/
inductive ArePieces : List Piece → List Char → Prop where
  | nil : ArePieces [] []
  | cons {piece : Piece} {text : List Char} {pieces : List Piece} {more : List Char} :
      piece.IsWrittenAs text → ArePieces pieces more → ArePieces (piece :: pieces) (text ++ more)

/-- The text is one of the string's: its pieces between quotes. -/
def StringToken.IsWrittenAs (token : StringToken) (text : List Char) : Prop :=
  token.fault = none ∧ ∃ inside, ArePieces token.pieces inside ∧ text = '"' :: (inside ++ ['"'])

/-! ### Tokens -/

/-- The text is one of the token's. A broken token has none. -/
def Token.IsWrittenAs : Token → List Char → Prop
  | .openArray, text => text = ['[']
  | .closeArray, text => text = [']']
  | .openObject, text => text = ['\x7b']
  | .closeObject, text => text = ['\x7d']
  | .comma, text => text = [',']
  | .colon, text => text = [':']
  | .null, text => text = ['n', 'u', 'l', 'l']
  | .bool true, text => text = ['t', 'r', 'u', 'e']
  | .bool false, text => text = ['f', 'a', 'l', 's', 'e']
  | .number numeral, text => numeral.IsWrittenAs text
  | .string token, text => token.IsWrittenAs text
  | .brokenWord _, _ | .brokenNumber _, _ | .stray, _ => False

/-- The token is not broken. -/
def Token.isSound : Token → Bool
  | .brokenWord _ | .brokenNumber _ | .stray => false
  | .string token => token.fault.isNone
  | _ => true

theorem Token.IsWrittenAs.isSound {token : Token} {text : List Char} (h : token.IsWrittenAs text) :
    token.isSound = true := by
  cases token with
  | string token =>
    obtain ⟨hfault, -⟩ := h
    simp [Token.isSound, hfault]
  | brokenWord | brokenNumber | stray => exact h.elim
  | _ => rfl

/-- The text does not continue a numeral in front of it. -/
def EndsNumeral (rest : List Char) : Prop :=
  ∀ c ∈ rest.head?, c.isDigit = false ∧ c ≠ '.' ∧ isExponentMark c = false

/-! ### What is found is what is written -/

section Sound

variable {text after digits : List Char}

theorem isDigits_takeWhile (h : text.takeWhile Char.isDigit ≠ []) :
    IsDigits (text.takeWhile Char.isDigit) :=
  ⟨h, fun _ hc => List.mem_takeWhile_imp hc⟩

theorem lexWord_sound {letters : List Char} (h : lexWord letters text = .ok after) :
    text = letters ++ after := by
  fun_induction lexWord letters text with
  | case1 text => exact Except.ok.inj h
  | case2 => cases h
  | case3 letter letters text ih => rw [ih h, List.cons_append]
  | case4 => cases h

theorem lexWhole_sound (h : lexWhole text = .ok (digits, after)) :
    IsDigits digits ∧ (digits.head? = some '0' → digits = ['0']) ∧ text = digits ++ after := by
  have hzero : IsDigits ['0'] := ⟨by simp, List.forall_mem_singleton.mpr rfl⟩
  revert h
  fun_cases lexWhole text <;> intro h <;> cases h
  · exact ⟨hzero, fun _ => rfl, rfl⟩
  · exact ⟨hzero, fun _ => rfl, rfl⟩
  · next c rest hnonzero hc =>
    have hmore : ∀ d ∈ rest.takeWhile Char.isDigit, d.isDigit = true :=
      fun _ h => List.mem_takeWhile_imp h
    refine ⟨⟨by simp, List.forall_mem_cons.mpr ⟨hc, hmore⟩⟩, fun hhead => ?_, ?_⟩
    · exact absurd (Option.some.inj hhead) hnonzero
    · rw [List.cons_append, List.takeWhile_append_dropWhile]

theorem lexFraction_sound (h : lexFraction text = .ok (digits, after)) :
    (∀ c ∈ digits, c.isDigit = true) ∧ text = fractionText digits ++ after := by
  revert h
  fun_cases lexFraction text <;> intro h <;> cases h
  · next rest hsome =>
    refine ⟨fun _ h => List.mem_takeWhile_imp h, ?_⟩
    rw [fractionText, List.cons_append, List.takeWhile_append_dropWhile]
    exact hsome
  · exact ⟨by simp, rfl⟩

theorem lexSign_sound (text : List Char) :
    ∃ sign ∈ signTexts (lexSign text).1, text = sign ++ (lexSign text).2 := by
  fun_cases lexSign text <;> simp [signTexts]

theorem lexExponent_sound {exponent : Option (Bool × List Char)}
    (h : lexExponent text = .ok (exponent, after)) :
    ∃ found, IsExponent exponent found ∧ text = found ++ after := by
  cases text with
  | nil =>
    cases h
    exact ⟨[], rfl, rfl⟩
  | cons mark rest =>
    rw [lexExponent] at h
    split at h
    · next hmark =>
      obtain ⟨sign, hsign, hrest⟩ := lexSign_sound rest
      dsimp only at h
      split at h
      · cases h
      · next found hsome =>
        cases h
        refine ⟨_, ⟨isDigits_takeWhile hsome, mark, sign, hmark, hsign, rfl⟩, ?_⟩
        rw [List.cons_append, List.append_assoc, List.takeWhile_append_dropWhile, ← hrest]
    · cases h
      exact ⟨[], rfl, rfl⟩

theorem lexNumeral_sound {negative : Bool} {numeral : Numeral}
    (h : lexNumeral negative text = .ok (numeral, after)) :
    ∃ found, numeral.IsWrittenAs found ∧
      (if negative then ['-'] else []) ++ text = found ++ after := by
  rw [lexNumeral, bind_eq_ok_iff] at h
  obtain ⟨⟨whole, rest⟩, hwhole, h⟩ := h
  obtain ⟨⟨fraction, rest'⟩, hfraction, h⟩ := bind_eq_ok_iff.mp h
  obtain ⟨⟨exponent, rest''⟩, hexponent, h⟩ := bind_eq_ok_iff.mp h
  cases h
  obtain ⟨hdigits, hneeded, htext⟩ := lexWhole_sound hwhole
  obtain ⟨hfractional, hrest⟩ := lexFraction_sound hfraction
  obtain ⟨found, hfound, hrest'⟩ := lexExponent_sound hexponent
  refine ⟨_, ⟨hdigits, hneeded, hfractional, found, hfound, rfl⟩, ?_⟩
  rw [htext, hrest, hrest']
  simp only [List.append_assoc]

/-- One more piece in front of those that were found. -/
theorem ArePieces.exists_cons {piece : Piece} {token : StringToken} {rest : List Char}
    (hpiece : piece.IsWrittenAs text)
    (h : ∃ inside, ArePieces token.pieces inside ∧ rest = inside ++ '"' :: after) :
    ∃ inside, ArePieces (token.cons piece).pieces inside ∧
      text ++ rest = inside ++ '"' :: after := by
  obtain ⟨inside, hpieces, rfl⟩ := h
  exact ⟨text ++ inside, .cons hpiece hpieces, (List.append_assoc _ _ _).symm⟩

theorem lexString_sound (h : (lexString text).1.fault = none) :
    ∃ inside, ArePieces (lexString text).1.pieces inside ∧
      text = inside ++ '"' :: (lexString text).2 := by
  -- Three cases read a piece and go on; the others end the string, all but one with a fault.
  fun_induction lexString text with
  | case1 | case4 | case5 | case7 | case8 | case9 => cases h
  | case2 rest => exact ⟨[], .nil, rfl⟩
  | case3 a b c d rest code hcode token after hrest ih =>
    rw [hrest] at ih
    exact ArePieces.exists_cons (.hex hcode) (ih h)
  | case6 c rest _ _ e hescaped token after hrest ih =>
    rw [hrest] at ih
    exact ArePieces.exists_cons (.letter hescaped) (ih h)
  | case10 c rest hquote _ _ hmore hend hcontrol token after hrest ih =>
    rw [hrest] at ih
    have hbackslash : c ≠ '\\' := by
      rintro rfl
      cases rest with
      | nil => exact hend rfl rfl
      | cons next rest => exact hmore next rest rfl rfl
    exact ArePieces.exists_cons (.plain hquote hbackslash (Nat.le_of_not_lt hcontrol)) (ih h)

/-- A sound token is found where one of its texts begins. -/
theorem lexToken_sound {c : Char} {rest : List Char} (h : (lexToken c rest).1.isSound = true) :
    ∃ found, (lexToken c rest).1.IsWrittenAs found ∧
      c :: rest = found ++ (lexToken c rest).2 := by
  unfold lexToken at h ⊢
  dsimp only at h ⊢
  -- Words, strings and numerals go on behind their first character; the marks do not.
  split at h
  case h_7 | h_8 | h_9 =>
    split at h
    · next after hword => exact ⟨_, rfl, congrArg (_ :: ·) (lexWord_sound hword)⟩
    · cases h
  case h_10 =>
    have hfault : (lexString rest).1.fault = none := Option.isNone_iff_eq_none.mp h
    obtain ⟨inside, hpieces, htext⟩ := lexString_sound hfault
    refine ⟨'"' :: (inside ++ ['"']), ⟨hfault, inside, hpieces, rfl⟩, ?_⟩
    rw [hfault, if_neg (by simp), List.cons_append, List.append_assoc]
    exact congrArg _ htext
  case h_11 =>
    split at h
    · next numeral after hnumeral => exact lexNumeral_sound hnumeral
    · cases h
  case h_12 =>
    split at h
    · next hdigit =>
      rw [if_pos hdigit]
      split at h
      · next numeral after hnumeral => exact lexNumeral_sound hnumeral
      · cases h
    · cases h
  all_goals exact ⟨_, rfl, rfl⟩

/-- Nothing is left behind a broken token. -/
theorem lexToken_of_not_isSound {c : Char} {rest : List Char}
    (h : (lexToken c rest).1.isSound = false) : (lexToken c rest).2 = [] := by
  unfold lexToken at h ⊢
  dsimp only at h ⊢
  split at h
  case h_7 | h_8 | h_9 =>
    split at h
    · cases h
    · rfl
  case h_10 =>
    have hfault : (lexString rest).1.fault.isSome = true := by
      rw [← Option.not_isNone]
      simpa [Token.isSound] using h
    exact if_pos hfault
  case h_11 =>
    split at h
    · cases h
    · rfl
  case h_12 =>
    split at h
    · next hdigit =>
      rw [if_pos hdigit]
      split at h
      · cases h
      · rfl
    · next hdigit => rw [if_neg hdigit]
  all_goals cases h

end Sound

/-! ### What is written is found -/

section Complete

variable {text rest digits : List Char}

section Digits

variable (hdigits : ∀ c ∈ digits, c.isDigit = true)

include hdigits

theorem takeWhile_isDigit_append (hrest : ∀ c ∈ rest.head?, c.isDigit = false) :
    (digits ++ rest).takeWhile Char.isDigit = digits := by
  rw [List.takeWhile_append_of_pos hdigits]
  cases rest with
  | nil => exact List.append_nil digits
  | cons c rest => simp [hrest c rfl]

theorem dropWhile_isDigit_append (hrest : ∀ c ∈ rest.head?, c.isDigit = false) :
    (digits ++ rest).dropWhile Char.isDigit = rest := by
  rw [List.dropWhile_append_of_pos hdigits]
  cases rest with
  | nil => rfl
  | cons c rest => simp [hrest c rfl]

end Digits

theorem lexWhole_append (hdigits : IsDigits digits)
    (hneeded : digits.head? = some '0' → digits = ['0'])
    (hrest : ∀ c ∈ rest.head?, c.isDigit = false) :
    lexWhole (digits ++ rest) = .ok (digits, rest) := by
  obtain ⟨hsome, hdigits⟩ := hdigits
  cases digits with
  | nil => exact absurd rfl hsome
  | cons first more =>
    by_cases hzero : first = '0'
    · -- Behind a lone zero no digit may follow, and none does.
      subst hzero
      obtain rfl := (List.cons.inj (hneeded rfl)).2
      cases rest with
      | nil => rfl
      | cons c rest =>
        change (if c.isDigit then Except.error Fault.malformed else .ok (['0'], c :: rest)) = _
        rw [hrest c rfl]
        rfl
    · obtain ⟨hfirst, hmore⟩ := List.forall_mem_cons.mp hdigits
      rw [List.cons_append, lexWhole, if_pos hfirst, takeWhile_isDigit_append hmore hrest,
        dropWhile_isDigit_append hmore hrest]
      exact hzero

theorem lexFraction_append (hdigits : ∀ c ∈ digits, c.isDigit = true)
    (hrest : ∀ c ∈ rest.head?, c.isDigit = false ∧ c ≠ '.') :
    lexFraction (fractionText digits ++ rest) = .ok (digits, rest) := by
  cases digits with
  | nil =>
    rw [fractionText, List.nil_append]
    unfold lexFraction
    split
    · exact absurd rfl (hrest '.' rfl).2
    · rfl
  | cons first more =>
    have hrest c (hc : c ∈ rest.head?) := (hrest c hc).1
    rw [fractionText, List.cons_append, lexFraction, takeWhile_isDigit_append hdigits hrest,
      dropWhile_isDigit_append hdigits hrest]
    simp

theorem lexSign_append {negative : Bool} {sign : List Char} (hsign : sign ∈ signTexts negative)
    (hdigits : IsDigits digits) (rest : List Char) :
    lexSign (sign ++ (digits ++ rest)) = (negative, digits ++ rest) := by
  obtain ⟨hsome, hdigits⟩ := hdigits
  cases digits with
  | nil => exact absurd rfl hsome
  | cons first more =>
    have hfirst : first.isDigit = true := hdigits first List.mem_cons_self
    have hunsigned : lexSign (first :: (more ++ rest)) = (false, first :: (more ++ rest)) := by
      have hminus : first ≠ '-' := by
        rintro rfl
        cases hfirst
      have hplus : first ≠ '+' := by
        rintro rfl
        cases hfirst
      rw [lexSign] <;> simp [hminus, hplus]
    cases negative with
    | true =>
      obtain rfl := List.mem_singleton.mp hsign
      rfl
    | false =>
      rcases List.mem_cons.mp hsign with rfl | hplus
      · exact hunsigned
      · obtain rfl := List.mem_singleton.mp hplus
        rfl

theorem lexExponent_append {exponent : Option (Bool × List Char)} (h : IsExponent exponent text)
    (hrest : EndsNumeral rest) : lexExponent (text ++ rest) = .ok (exponent, rest) := by
  cases exponent with
  | none =>
    obtain rfl : text = [] := h
    cases rest with
    | nil => rfl
    | cons c rest =>
      rw [List.nil_append, lexExponent, if_neg]
      simp [(hrest c rfl).2.2]
  | some exponent =>
    obtain ⟨negative, digits⟩ := exponent
    obtain ⟨hdigits, mark, sign, hmark, hsign, rfl⟩ := h
    have hrest c (hc : c ∈ rest.head?) := (hrest c hc).1
    rw [List.cons_append, List.append_assoc, lexExponent, if_pos hmark,
      lexSign_append hsign hdigits]
    dsimp only
    rw [takeWhile_isDigit_append hdigits.2 hrest, dropWhile_isDigit_append hdigits.2 hrest]
    split
    · exact absurd rfl hdigits.1
    · rfl

/-- What follows a fraction is no digit and no point. -/
theorem head?_exponent {exponent : Option (Bool × List Char)} (h : IsExponent exponent text)
    (hrest : EndsNumeral rest) : ∀ c ∈ (text ++ rest).head?, c.isDigit = false ∧ c ≠ '.' := by
  cases exponent with
  | none =>
    obtain rfl : text = [] := h
    exact fun c hc => ⟨(hrest c hc).1, (hrest c hc).2.1⟩
  | some exponent =>
    obtain ⟨-, mark, sign, hmark, -, rfl⟩ := h
    intro c hc
    obtain rfl := Option.some.inj hc
    simp only [isExponentMark, Bool.or_eq_true, beq_iff_eq] at hmark
    rcases hmark with rfl | rfl <;> decide

/-- What follows the digits before the point is no digit. -/
theorem head?_fraction (hrest : ∀ c ∈ rest.head?, c.isDigit = false ∧ c ≠ '.') :
    ∀ c ∈ (fractionText digits ++ rest).head?, c.isDigit = false := by
  cases digits with
  | nil => exact fun c hc => (hrest c hc).1
  | cons first more =>
    intro c hc
    obtain rfl := Option.some.inj hc
    decide

/-- A numeral is found behind its sign. -/
theorem lexNumeral_append {numeral : Numeral} (h : numeral.IsWrittenAs text)
    (hrest : EndsNumeral rest) :
    ∃ unsigned, text = (if numeral.negative then ['-'] else []) ++ unsigned ∧
      (∃ c ∈ unsigned.head?, c.isDigit = true) ∧
      lexNumeral numeral.negative (unsigned ++ rest) = .ok (numeral, rest) := by
  obtain ⟨hwhole, hneeded, hfraction, exponent, hexponent, rfl⟩ := h
  refine ⟨_, rfl, ?_, ?_⟩
  · cases hdigits : numeral.whole with
    | nil => exact absurd hdigits hwhole.1
    | cons c more => exact ⟨c, rfl, hwhole.2 c (by rw [hdigits]; exact List.mem_cons_self)⟩
  · -- Each part ends where the next one begins.
    have hbehind := head?_exponent hexponent hrest
    rw [List.append_assoc, List.append_assoc, lexNumeral,
      lexWhole_append hwhole hneeded (head?_fraction hbehind)]
    change (lexFraction _ >>= _) = _
    rw [lexFraction_append hfraction hbehind]
    change (lexExponent _ >>= _) = _
    rw [lexExponent_append hexponent hrest]
    rfl

/-- A piece is found at the head of a string. -/
theorem lexString_piece {piece : Piece} (h : piece.IsWrittenAs text) (rest : List Char) :
    lexString (text ++ rest) = ((lexString rest).1.cons piece, (lexString rest).2) := by
  cases h with
  | @plain c hquote hbackslash hcontrol =>
    rw [List.singleton_append, lexString, if_neg (Nat.not_lt.mpr hcontrol)] <;>
      simp [hquote, hbackslash]
  | @letter letter c hescaped =>
    have hunit : letter ≠ 'u' := by
      rintro rfl
      cases hescaped
    simp only [List.cons_append, List.nil_append]
    rw [lexString, hescaped] <;> simp [hunit]
  | @hex a b c d code hcode =>
    simp only [List.cons_append, List.nil_append]
    rw [lexString, hcode]

theorem lexString_append {pieces : List Piece} (h : ArePieces pieces text) (rest : List Char) :
    lexString (text ++ '"' :: rest) = (⟨pieces, none⟩, rest) := by
  induction h with
  | nil => rfl
  | cons hpiece hmore ih =>
    rw [List.append_assoc, lexString_piece hpiece, ih]
    rfl

theorem lexToken_of_isDigit {c : Char} (h : c.isDigit = true) {numeral : Numeral}
    {after : List Char} (hnumeral : lexNumeral false (c :: rest) = .ok (numeral, after)) :
    lexToken c rest = (.number numeral, after) := by
  unfold lexToken
  dsimp only
  split
  case h_12 => rw [if_pos h, hnumeral]
  all_goals exact absurd h (by decide)

theorem isSpace_of_isDigit {c : Char} (h : c.isDigit = true) : isSpace c = false := by
  have hne (blank : Char) (hblank : blank.isDigit = false) : c ≠ blank := by
    rintro rfl
    rw [h] at hblank
    cases hblank
  simp [isSpace, hne]

/-- A token is found at the head of one of its texts, which begins with no blank. Behind a numeral
the text may not go on with it. -/
theorem lexToken_of_isWrittenAs {token : Token} (h : token.IsWrittenAs text)
    (hrest : ∀ numeral, token = .number numeral → EndsNumeral rest) :
    ∃ c more, text = c :: more ∧ isSpace c = false ∧ lexToken c (more ++ rest) = (token, rest) := by
  cases token with
  | null =>
    obtain rfl := h
    exact ⟨_, _, rfl, by decide, rfl⟩
  | bool value =>
    cases value with
    | true =>
      obtain rfl := h
      exact ⟨_, _, rfl, by decide, rfl⟩
    | false =>
      obtain rfl := h
      exact ⟨_, _, rfl, by decide, rfl⟩
  | number numeral =>
    obtain ⟨unsigned, rfl, ⟨c, hc, hdigit⟩, hnumeral⟩ := lexNumeral_append h (hrest numeral rfl)
    obtain ⟨more, rfl⟩ : ∃ more, unsigned = c :: more := List.head?_eq_some_iff.mp hc
    cases hsign : numeral.negative with
    | true =>
      rw [hsign] at hnumeral
      refine ⟨'-', c :: more, rfl, by decide, ?_⟩
      unfold lexToken
      simp only [hnumeral]
    | false =>
      rw [hsign] at hnumeral
      exact ⟨c, more, rfl, isSpace_of_isDigit hdigit, lexToken_of_isDigit hdigit hnumeral⟩
  | string token =>
    obtain ⟨hfault, inside, hpieces, rfl⟩ := h
    refine ⟨'"', inside ++ ['"'], rfl, by decide, ?_⟩
    have hstring := lexString_append hpieces rest
    have htoken : (⟨token.pieces, none⟩ : StringToken) = token := by rw [← hfault]
    rw [List.append_assoc, List.singleton_append]
    unfold lexToken
    simp only [hstring, htoken, hfault]
    rfl
  | brokenWord | brokenNumber | stray => exact h.elim
  | _ =>
    obtain rfl := h
    exact ⟨_, [], rfl, by decide, rfl⟩

end Complete

end KernelBridge.Json
