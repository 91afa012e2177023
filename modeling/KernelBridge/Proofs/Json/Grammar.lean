import Mathlib.Data.List.Chain
import KernelBridge.Proofs.Json.Tree

/-!
# The grammar of JSON

A tree is spelled as tokens, and a text is a writing of the tree if it consists of texts of these
tokens with blanks around them as one likes. A text is a writing of one tree at most: of the one
that is built from it, if that can be passed over.

## Main definitions

* `Json.IsSpaced` — texts of tokens, with blanks around them
* `Json.Node.spelling` — the tokens of a tree
* `Json.Node.IsWrittenAs` — the writings of a tree

## Main results

* `Json.isSpaced_tokens`, `Json.IsSpaced.tokens_eq` — blanks do not change the tokens
* `Json.Node.ofTokens_sound`, `Json.Node.ofTokens_spelling` — trees are built from their spellings
* `Json.Node.isWrittenAs_iff`, `Json.Node.isWrittenAs_iff_tokens` — the tree that a text is a
  writing of
-/

namespace KernelBridge.Json

/-! ### Tokens and blanks -/

/-- The text consists of texts of the tokens, one after the other, and of blanks around them. -/
inductive IsSpaced : List Token → List Char → Prop where
  | nil : IsSpaced [] []
  | blank {tokens : List Token} {c : Char} {text : List Char} :
      isSpace c = true → IsSpaced tokens text → IsSpaced tokens (c :: text)
  | token {token : Token} {tokens : List Token} {text rest : List Char} :
      token.IsWrittenAs text → IsSpaced tokens rest → IsSpaced (token :: tokens) (text ++ rest)

/-- The token is a numeral. -/
def Token.isNumber : Token → Bool
  | .number _ => true
  | _ => false

/-- The tokens may stand side by side: they are not two numerals. -/
def AreApart (first second : Token) : Prop := first.isNumber = false ∨ second.isNumber = false

section Spaced

variable {spelling : List Token} {text rest : List Char} {token : Token} {c : Char}

theorem tokens_blank (h : isSpace c = true) (rest : List Char) :
    tokens (c :: rest) = tokens rest := by
  rw [tokens, List.length_cons, tokensUpTo, if_pos h, tokens]

theorem IsSpaced.isSound (h : IsSpaced spelling text) :
    ∀ token ∈ spelling, token.isSound = true := by
  induction h with
  | nil => simp
  | blank _ _ ih => exact ih
  | token hfirst _ ih => exact List.forall_mem_cons.mpr ⟨hfirst.isSound, ih⟩

/-- A text without broken tokens consists of its tokens. -/
theorem isSpaced_tokens (h : ∀ token ∈ tokens text, token.isSound = true) :
    IsSpaced (tokens text) text := by
  -- By the length of the text: a blank and a token both leave a shorter one.
  induction hlength : text.length using Nat.strongRecOn generalizing text with
  | ind n ih =>
    subst hlength
    cases text with
    | nil => exact .nil
    | cons c rest =>
      by_cases hspace : isSpace c = true
      · rw [tokens_blank hspace] at h ⊢
        exact .blank hspace (ih _ (Nat.lt_succ_self _) h rfl)
      · rw [tokens_cons (Bool.not_eq_true _ ▸ hspace)] at h ⊢
        obtain ⟨hsound, hmore⟩ := List.forall_mem_cons.mp h
        obtain ⟨found, hfound, htext⟩ := lexToken_sound hsound
        have hless := Nat.lt_succ_of_le (length_lexToken_le c rest)
        have hafter := ih _ hless hmore rfl
        rw [htext]
        exact .token hfound hafter

/-- Only numerals begin like what continues a numeral. -/
theorem Token.IsWrittenAs.endsNumeral (h : token.IsWrittenAs text)
    (hnumber : token.isNumber = false) (rest : List Char) : EndsNumeral (text ++ rest) := by
  cases token with
  | number => cases hnumber
  | bool value => cases value <;> (obtain rfl := h; simp [EndsNumeral, isExponentMark])
  | string token =>
    obtain ⟨-, inside, -, rfl⟩ := h
    simp [EndsNumeral, isExponentMark]
  | brokenWord | brokenNumber | stray => exact h.elim
  | _ =>
    obtain rfl := h
    simp [EndsNumeral, isExponentMark]

theorem IsSpaced.endsNumeral (h : IsSpaced spelling text)
    (hhead : ∀ token ∈ spelling.head?, token.isNumber = false) : EndsNumeral text := by
  cases h with
  | nil => simp [EndsNumeral]
  | blank hspace =>
    intro d hd
    obtain rfl := Option.some.inj hd
    simp only [isSpace, Bool.or_eq_true, beq_iff_eq] at hspace
    rcases hspace with ((rfl | rfl) | rfl) | rfl <;> decide
  | token hfirst => exact hfirst.endsNumeral (hhead _ rfl) _

/-- The tokens of a text that consists of tokens, no two numerals side by side. -/
theorem IsSpaced.tokens_eq (h : IsSpaced spelling text) (hapart : spelling.IsChain AreApart) :
    tokens text = spelling := by
  induction h with
  | nil => rfl
  | blank hspace _ ih => rw [tokens_blank hspace, ih hapart]
  | @token first more found after hfirst hmore ih =>
    have hafter (numeral : Numeral) (hnumber : first = .number numeral) : EndsNumeral after := by
      subst hnumber
      refine hmore.endsNumeral fun next hnext => ?_
      exact ((List.isChain_cons.mp hapart).1 next hnext).resolve_left (by simp [Token.isNumber])
    rw [tokens_append hfirst hafter, ih hapart.tail]

end Spaced

/-! ### Spellings -/

mutual

/-- The tokens of a value. A place that breaks the grammar is spelled as no text can be. -/
def Node.spelling : Node → List Token
  | .absent _ => [.stray]
  | .null => [.null]
  | .bool value => [.bool value]
  | .brokenWord fault => [.brokenWord fault]
  | .number numeral => [.number numeral]
  | .brokenNumber fault => [.brokenNumber fault]
  | .string token => [.string token]
  | .array .closed => [.openArray, .closeArray]
  | .array (.missing _) => [.openArray, .stray]
  | .array (.next value rest) => .openArray :: (value.spelling ++ rest.spelling)
  | .object .closed => [.openObject, .closeObject]
  | .object (.missing _) => [.openObject, .stray]
  | .object (.noKey _) => [.openObject, .stray]
  | .object (.next key value rest) =>
    .openObject :: .string key :: .colon :: (value.spelling ++ rest.spelling)

/-- The tokens of the elements behind another one, up to the closing bracket. -/
def Elements.spelling : Elements → List Token
  | .closed => [.closeArray]
  | .missing _ => [.stray]
  | .next value rest => .comma :: (value.spelling ++ rest.spelling)

/-- The tokens of the members behind another one, up to the closing brace. -/
def Members.spelling : Members → List Token
  | .closed => [.closeObject]
  | .missing _ => [.stray]
  | .noKey _ => [.stray]
  | .next key value rest =>
    .comma :: .string key :: .colon :: (value.spelling ++ rest.spelling)

end

/-- The text is a writing of the tree. -/
def Node.IsWrittenAs (tree : Node) (text : String) : Prop := IsSpaced tree.spelling text.toList

section Apart

variable {spelling more : List Token} {token : Token}

theorem isChain_areApart_cons (h : token.isNumber = false) (hmore : more.IsChain AreApart) :
    (token :: more).IsChain AreApart :=
  List.isChain_cons.mpr ⟨fun _ _ => .inl h, hmore⟩

theorem isChain_areApart_append (h : spelling.IsChain AreApart) (hmore : more.IsChain AreApart)
    (hhead : ∀ token ∈ more.head?, token.isNumber = false) :
    (spelling ++ more).IsChain AreApart :=
  List.isChain_append.mpr ⟨h, hmore, fun _ _ token htoken => .inr (hhead token htoken)⟩

theorem Elements.head?_spelling (elements : Elements) :
    ∀ token ∈ elements.spelling.head?, token.isNumber = false := by
  cases elements <;> simp [Elements.spelling, Token.isNumber]

theorem Members.head?_spelling (members : Members) :
    ∀ token ∈ members.spelling.head?, token.isNumber = false := by
  cases members <;> simp [Members.spelling, Token.isNumber]

end Apart

mutual

/-- No two numerals stand side by side in a spelling. -/
theorem Node.isChain_spelling : (node : Node) → node.spelling.IsChain AreApart
  | .absent _ | .null | .bool _ | .brokenWord _ | .number _ | .brokenNumber _ | .string _ =>
    .singleton _
  | .array .closed | .array (.missing _) | .object .closed | .object (.missing _)
  | .object (.noKey _) => isChain_areApart_cons rfl (.singleton _)
  | .array (.next value rest) =>
    isChain_areApart_cons rfl
      (isChain_areApart_append value.isChain_spelling rest.isChain_spelling rest.head?_spelling)
  | .object (.next _ value rest) =>
    isChain_areApart_cons rfl <| isChain_areApart_cons rfl <| isChain_areApart_cons rfl <|
      isChain_areApart_append value.isChain_spelling rest.isChain_spelling rest.head?_spelling

theorem Elements.isChain_spelling : (elements : Elements) → elements.spelling.IsChain AreApart
  | .closed | .missing _ => .singleton _
  | .next value rest =>
    isChain_areApart_cons rfl
      (isChain_areApart_append value.isChain_spelling rest.isChain_spelling rest.head?_spelling)

theorem Members.isChain_spelling : (members : Members) → members.spelling.IsChain AreApart
  | .closed | .missing _ | .noKey _ => .singleton _
  | .next _ value rest =>
    isChain_areApart_cons rfl <| isChain_areApart_cons rfl <| isChain_areApart_cons rfl <|
      isChain_areApart_append value.isChain_spelling rest.isChain_spelling rest.head?_spelling

end

/-! ### Passing over -/

theorem Elements.skip_next_eq_ok_iff {value : Node} {rest : Elements} :
    (Elements.next value rest).skip = .ok () ↔ value.skip = .ok () ∧ rest.skip = .ok () := by
  rw [Elements.skip]
  cases value.skip <;> simp

theorem Members.skip_next_eq_ok_iff {key : StringToken} {value : Node} {rest : Members} :
    (Members.next key value rest).skip = .ok () ↔
      key.fault = none ∧ value.skip = .ok () ∧ rest.skip = .ok () := by
  rw [Members.skip]
  cases key.fault <;> cases value.skip <;> simp

mutual

/-- A value can be passed over iff its spelling has no broken token. -/
theorem Node.skip_eq_ok_iff : (node : Node) →
    (node.skip = .ok () ↔ ∀ token ∈ node.spelling, token.isSound = true)
  | .absent _ | .brokenWord _ | .brokenNumber _ => by simp [Node.skip, Node.spelling, Token.isSound]
  | .null | .bool _ | .number _ => by simp [Node.skip, Node.spelling, Token.isSound]
  | .string token => by
    cases hfault : token.fault <;> simp [Node.skip, Node.spelling, Token.isSound, hfault]
  | .array .closed | .object .closed => by
    simp [Node.skip, Elements.skip, Members.skip, Node.spelling, Token.isSound]
  | .array (.missing _) | .object (.missing _) | .object (.noKey _) => by
    simp [Node.skip, Elements.skip, Members.skip, Node.spelling, Token.isSound]
  | .array (.next value rest) => by
    rw [Node.skip, Elements.skip_next_eq_ok_iff, value.skip_eq_ok_iff, rest.skip_eq_ok_iff,
      Node.spelling]
    simp [Token.isSound, or_imp, forall_and]
  | .object (.next key value rest) => by
    rw [Node.skip, Members.skip_next_eq_ok_iff, value.skip_eq_ok_iff, rest.skip_eq_ok_iff,
      Node.spelling]
    simp [Token.isSound, or_imp, forall_and]

theorem Elements.skip_eq_ok_iff : (elements : Elements) →
    (elements.skip = .ok () ↔ ∀ token ∈ elements.spelling, token.isSound = true)
  | .closed => by simp [Elements.skip, Elements.spelling, Token.isSound]
  | .missing _ => by simp [Elements.skip, Elements.spelling, Token.isSound]
  | .next value rest => by
    rw [Elements.skip_next_eq_ok_iff, value.skip_eq_ok_iff, rest.skip_eq_ok_iff, Elements.spelling]
    simp [Token.isSound, or_imp, forall_and]

theorem Members.skip_eq_ok_iff : (members : Members) →
    (members.skip = .ok () ↔ ∀ token ∈ members.spelling, token.isSound = true)
  | .closed => by simp [Members.skip, Members.spelling, Token.isSound]
  | .missing _ | .noKey _ => by simp [Members.skip, Members.spelling, Token.isSound]
  | .next key value rest => by
    rw [Members.skip_next_eq_ok_iff, value.skip_eq_ok_iff, rest.skip_eq_ok_iff, Members.spelling]
    simp [Token.isSound, or_imp, forall_and]

end

/-! ### Building -/

/-- What is built within so many steps and can be passed over is spelled by the tokens that were
taken. Where a key is due there is a member, not the end of the object. -/
structure BuildsSoundly (fuel : Nat) : Prop where
  node : ∀ tokens, (Node.build fuel tokens).1.skip = .ok () →
    tokens = (Node.build fuel tokens).1.spelling ++ (Node.build fuel tokens).2
  elements : ∀ tokens, (Elements.build fuel tokens).1.skip = .ok () →
    tokens = (Elements.build fuel tokens).1.spelling ++ (Elements.build fuel tokens).2
  members : ∀ tokens, (Members.build fuel tokens).1.skip = .ok () →
    (Members.build fuel tokens).1 ≠ .closed ∧
      .comma :: tokens = (Members.build fuel tokens).1.spelling ++ (Members.build fuel tokens).2
  membersAfter : ∀ tokens, (Members.buildAfter fuel tokens).1.skip = .ok () →
    tokens = (Members.buildAfter fuel tokens).1.spelling ++ (Members.buildAfter fuel tokens).2

section Sound

variable {fuel : Nat} (ih : ∀ less < fuel, BuildsSoundly less) (tokens : List Token)

include ih

theorem Elements.build_sound_of_less (h : (Elements.build fuel tokens).1.skip = .ok ()) :
    tokens = (Elements.build fuel tokens).1.spelling ++ (Elements.build fuel tokens).2 := by
  revert h
  fun_cases Elements.build fuel tokens
  case case2 => exact fun _ => rfl
  case case3 less rest value behind hvalue elements after helements =>
    intro h
    obtain ⟨hskip, hskips⟩ := Elements.skip_next_eq_ok_iff.mp h
    have htokens := (ih less (Nat.lt_succ_self less)).node rest
    have hbehind := (ih less (Nat.lt_succ_self less)).elements behind
    rw [hvalue] at htokens
    rw [helements] at hbehind
    rw [Elements.spelling, List.cons_append, List.append_assoc, ← hbehind hskips, ← htokens hskip]
  all_goals
    intro h
    cases h

theorem Members.buildAfter_sound_of_less (h : (Members.buildAfter fuel tokens).1.skip = .ok ()) :
    tokens = (Members.buildAfter fuel tokens).1.spelling ++
      (Members.buildAfter fuel tokens).2 := by
  revert h
  fun_cases Members.buildAfter fuel tokens
  case case2 => exact fun _ => rfl
  case case3 less rest =>
    exact fun h => ((ih less (Nat.lt_succ_self less)).members rest h).2
  all_goals
    intro h
    cases h

theorem Members.build_sound_of_less (h : (Members.build fuel tokens).1.skip = .ok ()) :
    (Members.build fuel tokens).1 ≠ .closed ∧
      .comma :: tokens = (Members.build fuel tokens).1.spelling ++
        (Members.build fuel tokens).2 := by
  revert h
  fun_cases Members.build fuel tokens
  case case2 less key rest value behind hvalue members after hmembers =>
    intro h
    obtain ⟨-, hskip, hskips⟩ := Members.skip_next_eq_ok_iff.mp h
    have htokens := (ih less (Nat.lt_succ_self less)).node rest
    have hbehind := (ih less (Nat.lt_succ_self less)).membersAfter behind
    rw [hvalue] at htokens
    rw [hmembers] at hbehind
    refine ⟨by simp, ?_⟩
    rw [Members.spelling]
    simp only [List.cons_append, List.append_assoc]
    rw [← hbehind hskips, ← htokens hskip]
  case case3 key rest _ =>
    intro h
    obtain ⟨-, hskip, -⟩ := Members.skip_next_eq_ok_iff.mp h
    cases hskip
  all_goals
    intro h
    cases h

theorem Node.build_sound_of_less (h : (Node.build fuel tokens).1.skip = .ok ()) :
    tokens = (Node.build fuel tokens).1.spelling ++ (Node.build fuel tokens).2 := by
  revert h
  fun_cases Node.build fuel tokens
  case case10 less more _ _ value behind hvalue elements after helements =>
    intro h
    rw [Node.skip] at h
    obtain ⟨hskip, hskips⟩ := Elements.skip_next_eq_ok_iff.mp h
    have htokens := (ih less (Nat.lt_succ_self less)).node more
    have hbehind := (ih less (Nat.lt_succ_self less)).elements behind
    rw [hvalue] at htokens
    rw [helements] at hbehind
    rw [Node.spelling, List.cons_append, List.append_assoc, ← hbehind hskips, ← htokens hskip]
  case case12 less more _ members after hmembers =>
    intro h
    rw [Node.skip] at h
    have htokens := (ih less (Nat.lt_succ_self less)).members more
    rw [hmembers] at htokens
    obtain ⟨hopen, htokens⟩ := htokens h
    cases members with
    | closed => exact absurd rfl hopen
    | missing | noKey => cases h
    | next key value rest =>
      rw [Members.spelling, List.cons_append] at htokens
      rw [Node.spelling, List.cons_append, (List.cons.inj htokens).2]
  case case1 | case4 | case6 | case9 | case13 =>
    intro h
    cases h
  all_goals exact fun _ => rfl

end Sound

theorem buildsSoundly (fuel : Nat) : BuildsSoundly fuel := by
  -- The four functions call each other with fewer steps only.
  induction fuel using Nat.strongRecOn with
  | ind fuel ih =>
    exact ⟨Node.build_sound_of_less ih, Elements.build_sound_of_less ih,
      Members.build_sound_of_less ih, Members.buildAfter_sound_of_less ih⟩

mutual

/-- A value without broken tokens is built from its spelling, whatever follows. -/
theorem Node.builds_spelling : (node : Node) → node.skip = .ok () → Builds node.spelling node
  | .null, _ | .bool _, _ | .number _, _ | .string _, _ => Builds.single (by simp) fun _ _ => rfl
  | .absent _, h | .brokenWord _, h | .brokenNumber _, h => by cases h
  | .array (.missing _), h | .object (.missing _), h | .object (.noKey _), h => by cases h
  | .array .closed, _ | .object .closed, _ => by
    refine ⟨⟨_, _, rfl, by simp⟩, fun fuel rest hfuel => ?_⟩
    obtain ⟨fuel, rfl⟩ := exists_eq_succ_of_lt hfuel
    rfl
  | .array (.next value others), h => by
    rw [Node.skip] at h
    obtain ⟨hvalue, hothers⟩ := Elements.skip_next_eq_ok_iff.mp h
    have hbuilds := value.builds_spelling hvalue
    refine ⟨⟨_, _, rfl, by simp⟩, fun fuel rest hfuel => ?_⟩
    rw [Node.spelling, List.length_cons, List.length_append] at hfuel
    obtain ⟨fuel, rfl⟩ := exists_eq_succ_of_lt hfuel
    have hnode := hbuilds.build fuel (others.spelling ++ rest) (by omega)
    have helements := others.build_spelling hothers fuel rest (by omega)
    obtain ⟨first, more, hspelling, hfirst⟩ := hbuilds.begins
    rw [Node.spelling, List.cons_append, List.append_assoc]
    rw [hspelling, List.cons_append] at hnode ⊢
    exact Node.build_openArray hfirst hnode helements
  | .object (.next key value others), h => by
    rw [Node.skip] at h
    obtain ⟨-, hvalue, hothers⟩ := Members.skip_next_eq_ok_iff.mp h
    refine ⟨⟨_, _, rfl, by simp⟩, fun fuel rest hfuel => ?_⟩
    simp only [Node.spelling, List.length_cons, List.length_append] at hfuel
    obtain ⟨fuel, rfl⟩ := exists_eq_succ_of_lt hfuel
    obtain ⟨fuel, rfl⟩ := exists_eq_succ_of_lt (Nat.le_of_succ_le_succ hfuel)
    have hnode := (value.builds_spelling hvalue).build fuel (others.spelling ++ rest) (by omega)
    have hmembers := others.buildAfter_spelling hothers fuel rest (by omega)
    simp only [Node.spelling, List.cons_append, List.append_assoc]
    exact Node.build_openObject (Members.build_key hnode hmembers)

/-- The elements behind another one are built from their spelling. -/
theorem Elements.build_spelling : (elements : Elements) → elements.skip = .ok () →
    ∀ fuel rest, elements.spelling.length ≤ fuel →
      Elements.build fuel (elements.spelling ++ rest) = (elements, rest)
  | .missing _, h => by cases h
  | .closed, _ => by
    intro fuel rest hfuel
    obtain ⟨fuel, rfl⟩ := exists_eq_succ_of_lt hfuel
    rfl
  | .next value others, h => by
    obtain ⟨hvalue, hothers⟩ := Elements.skip_next_eq_ok_iff.mp h
    intro fuel rest hfuel
    rw [Elements.spelling, List.length_cons, List.length_append] at hfuel
    obtain ⟨fuel, rfl⟩ := exists_eq_succ_of_lt hfuel
    have hnode := (value.builds_spelling hvalue).build fuel (others.spelling ++ rest) (by omega)
    have helements := others.build_spelling hothers fuel rest (by omega)
    rw [Elements.spelling, List.cons_append, List.append_assoc]
    exact Elements.build_comma hnode helements

/-- The members behind another one are built from their spelling. -/
theorem Members.buildAfter_spelling : (members : Members) → members.skip = .ok () →
    ∀ fuel rest, members.spelling.length ≤ fuel →
      Members.buildAfter fuel (members.spelling ++ rest) = (members, rest)
  | .missing _, h | .noKey _, h => by cases h
  | .closed, _ => by
    intro fuel rest hfuel
    obtain ⟨fuel, rfl⟩ := exists_eq_succ_of_lt hfuel
    rfl
  | .next key value others, h => by
    obtain ⟨-, hvalue, hothers⟩ := Members.skip_next_eq_ok_iff.mp h
    intro fuel rest hfuel
    simp only [Members.spelling, List.length_cons, List.length_append] at hfuel
    obtain ⟨fuel, rfl⟩ := exists_eq_succ_of_lt hfuel
    obtain ⟨fuel, rfl⟩ := exists_eq_succ_of_lt (Nat.le_of_succ_le_succ hfuel)
    have hnode := (value.builds_spelling hvalue).build fuel (others.spelling ++ rest) (by omega)
    have hmembers := others.buildAfter_spelling hothers fuel rest (by omega)
    simp only [Members.spelling, List.cons_append, List.append_assoc]
    exact Members.build_key hnode hmembers

end

section OfTokens

variable {node : Node} {spelling rest : List Token}

/-- What is built from tokens and can be passed over is spelled by those that were taken. -/
theorem Node.ofTokens_sound (h : Node.ofTokens spelling = (node, rest))
    (hskip : node.skip = .ok ()) : spelling = node.spelling ++ rest := by
  have hsound := (buildsSoundly (2 * spelling.length + 2)).node spelling
  rw [← Node.ofTokens, h] at hsound
  exact hsound hskip

/-- A tree without broken tokens is built from its spelling. -/
theorem Node.ofTokens_spelling (h : node.skip = .ok ()) :
    Node.ofTokens node.spelling = (node, []) := by
  have hbuild := (node.builds_spelling h).build (2 * node.spelling.length + 2) [] (by omega)
  rwa [List.append_nil] at hbuild

end OfTokens

/-! ### Writings -/

section Writing

variable {tree : Node} {text : String}

/-- **The tree of a text.** A text is a writing of the tree that is built from all of its tokens,
if this tree can be passed over, and of no other one. -/
theorem Node.isWrittenAs_iff :
    tree.IsWrittenAs text ↔
      Node.ofTokens (tokens text.toList) = (tree, []) ∧ tree.skip = .ok () := by
  constructor
  · -- The tokens of a writing are those that the tree is spelled as, and build it again.
    intro h
    have hskip := tree.skip_eq_ok_iff.mpr h.isSound
    rw [h.tokens_eq tree.isChain_spelling]
    exact ⟨Node.ofTokens_spelling hskip, hskip⟩
  · -- A tree without faults has used up sound tokens, all of which the text consists of.
    intro h
    obtain ⟨hbuild, hskip⟩ := h
    have htokens := Node.ofTokens_sound hbuild hskip
    rw [List.append_nil] at htokens
    rw [Node.IsWrittenAs, ← htokens]
    apply isSpaced_tokens
    rw [htokens]
    exact tree.skip_eq_ok_iff.mp hskip

/-- The writings of a tree are told by their tokens. -/
theorem Node.isWrittenAs_iff_tokens :
    tree.IsWrittenAs text ↔ tokens text.toList = tree.spelling ∧ tree.skip = .ok () := by
  rw [Node.isWrittenAs_iff]
  refine and_congr_left fun hskip => ⟨fun hbuild => ?_, fun htokens => ?_⟩
  · exact (Node.ofTokens_sound hbuild hskip).trans (List.append_nil _)
  · rw [htokens]
    exact Node.ofTokens_spelling hskip

/-- A text is a writing of one tree only. -/
theorem Node.IsWrittenAs.unique {other : Node} (h : tree.IsWrittenAs text)
    (hother : other.IsWrittenAs text) : tree = other := by
  have htree := (Node.isWrittenAs_iff.mp h).1
  have hsame := (Node.isWrittenAs_iff.mp hother).1
  exact (Prod.mk.inj (htree.symm.trans hsame)).1

/-- A writing of a tree is read as the tree is. -/
theorem read_of_isWrittenAs {α : Type} (h : tree.IsWrittenAs text) (reader : Node → Reading α) :
    read reader text = reader tree := by
  rw [read, (Node.isWrittenAs_iff.mp h).1]
  exact bind_pure (reader tree)

end Writing

end KernelBridge.Json
