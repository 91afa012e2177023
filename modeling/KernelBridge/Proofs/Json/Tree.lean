import Mathlib.Data.List.Forall2
import KernelBridge.Json.Reader
import KernelBridge.Proofs.Json.Token

/-!
# Trees of written texts

A text that was written piece by piece has a tree that is put together in the same way. So a
reader of the text is a reader of that tree.

## Main definitions

* `Json.Elements.ofList`, `Json.Members.ofList` — the insides of arrays and objects
* `Json.Builds` — tokens that make up one value
* `Json.Spells` — texts that make up one value

## Main results

* `Json.spells_writeString`, `Json.spells_toString`, `Json.spells_true` — the simple values
* `Json.spells_writeArray`, `Json.spells_writeObject` — lists and records of written values
* `Json.read_of_spells` — reading a written text
-/

namespace KernelBridge.Json

/-- The elements of an array, in order. -/
def Elements.ofList : List Node → Elements
  | [] => .closed
  | value :: rest => .next value (ofList rest)

/-- The members of an object, in order, with written keys. -/
def Members.ofList : List (String × Node) → Members
  | [] => .closed
  | (key, value) :: rest => .next (writtenString key) value (ofList rest)

/-- The tokens make up one value, whatever follows them. -/
structure Builds (spelling : List Token) (node : Node) : Prop where
  begins : ∃ first rest, spelling = first :: rest ∧ first ≠ .closeArray
  build : ∀ fuel rest, spelling.length ≤ fuel → Node.build fuel (spelling ++ rest) = (node, rest)

/-- The text makes up one value, whatever follows that ends it. -/
def Spells (text : String) (node : Node) : Prop :=
  ∃ spelling, Builds spelling node ∧
    ∀ rest, IsBounded rest → tokens (text.toList ++ rest) = spelling ++ tokens rest

/-! ### Simple values -/

section Simple

theorem Builds.single {token : Token} {node : Node} (h : token ≠ .closeArray)
    (hbuild : ∀ fuel rest, Node.build (fuel + 1) (token :: rest) = (node, rest)) :
    Builds [token] node := by
  refine ⟨⟨token, [], rfl, h⟩, fun fuel rest hfuel => ?_⟩
  obtain ⟨fuel, rfl⟩ := Nat.exists_eq_add_of_le' hfuel
  exact hbuild fuel rest

theorem spells_writeString (s : String) : Spells (writeString s) (.string (writtenString s)) :=
  ⟨[.string (writtenString s)], Builds.single (by simp) fun _ _ => rfl,
    fun rest _ => tokens_writeString s rest⟩

theorem spells_toString (n : Nat) : Spells (toString n) (.number (writtenNumeral n)) := by
  refine ⟨[.number (writtenNumeral n)], Builds.single (by simp) fun _ _ => rfl,
    fun rest hrest => ?_⟩
  have htext : (toString n).toList = Nat.toDigits 10 n := String.toList_ofList
  rw [htext]
  exact tokens_toDigits hrest

theorem spells_true : Spells "true" (.bool true) :=
  ⟨[.bool true], Builds.single (by simp) fun _ _ => rfl, fun _ _ => tokens_cons (by decide) _⟩

end Simple

/-! ### Steps of a tree -/

section Build

variable {fuel : Nat} {first : Token} {more rest after : List Token} {value : Node}

theorem Node.build_openArray {elements : Elements} (hfirst : first ≠ .closeArray)
    (hvalue : Node.build fuel (first :: more) = (value, rest))
    (helements : Elements.build fuel rest = (elements, after)) :
    Node.build (fuel + 1) (.openArray :: first :: more) =
      (.array (.next value elements), after) := by
  rw [Node.build]
  · simp only [hvalue, helements]
  · rintro rest heq
    exact hfirst (List.cons.inj heq).1
  · simp

theorem Elements.build_comma {elements : Elements}
    (hvalue : Node.build fuel more = (value, rest))
    (helements : Elements.build fuel rest = (elements, after)) :
    Elements.build (fuel + 1) (.comma :: more) = (.next value elements, after) := by
  rw [Elements.build]
  simp only [hvalue, helements]

theorem Node.build_openObject {key : StringToken} {members : Members}
    (hmembers : Members.build fuel (.string key :: more) = (members, after)) :
    Node.build (fuel + 1) (.openObject :: .string key :: more) = (.object members, after) := by
  rw [Node.build]
  · simp only [hmembers]
  · simp

theorem Members.build_key {key : StringToken} {members : Members}
    (hvalue : Node.build fuel more = (value, rest))
    (hmembers : Members.buildAfter fuel rest = (members, after)) :
    Members.build (fuel + 1) (.string key :: .colon :: more) =
      (.next key value members, after) := by
  rw [Members.build]
  simp only [hvalue, hmembers]

end Build

theorem exists_eq_succ_of_lt {n fuel : Nat} (h : n < fuel) : ∃ k, fuel = k + 1 :=
  Nat.exists_eq_add_of_le' (Nat.le_trans (Nat.le_add_left 1 n) h)

/-! ### Lists -/

/-- What stands behind a value and a comma is bounded by the comma. -/
theorem isBounded_flatMap {α : Type} {rest : List Char} (h : IsBounded rest) (xs : List α)
    (text : α → List Char) : IsBounded ((xs.flatMap fun x => ',' :: text x) ++ rest) := by
  cases xs with
  | nil => exact h
  | cons x xs => exact List.mem_cons_self

/-- A separator stands in front of every text but the first. -/
theorem toList_intercalate_cons (text : String) (texts : List String) :
    (",".intercalate (text :: texts)).toList =
      text.toList ++ texts.flatMap fun text => ',' :: text.toList := by
  induction texts generalizing text with
  | nil => simp
  | cons next texts ih =>
    rw [String.intercalate_cons_cons, String.toList_append, String.toList_append, ih]
    simp

/-- The elements after the first one. -/
theorem exists_elements {texts : List String} {nodes : List Node}
    (h : List.Forall₂ Spells texts nodes) :
    ∃ spelling : List Token,
      (∀ fuel rest, spelling.length < fuel →
        Elements.build fuel (spelling ++ .closeArray :: rest) = (.ofList nodes, rest)) ∧
      ∀ rest, IsBounded rest →
        tokens ((texts.flatMap fun text => ',' :: text.toList) ++ rest) =
          spelling ++ tokens rest := by
  -- Each element takes one step, and at least a comma and a token.
  induction h with
  | nil =>
    refine ⟨[], fun fuel rest hfuel => ?_, fun _ _ => rfl⟩
    obtain ⟨fuel, rfl⟩ := exists_eq_succ_of_lt hfuel
    rfl
  | cons hfirst hothers ih =>
    obtain ⟨value, hvalue, hvalueTokens⟩ := hfirst
    obtain ⟨others, hbuild, htokens⟩ := ih
    refine ⟨.comma :: (value ++ others), fun fuel rest hfuel => ?_, fun rest hrest => ?_⟩
    · obtain ⟨fuel, rfl⟩ := exists_eq_succ_of_lt hfuel
      simp only [List.length_cons, List.length_append] at hfuel
      rw [List.cons_append, List.append_assoc]
      exact Elements.build_comma (hvalue.build _ _ (by omega)) (hbuild _ _ (by omega))
    · rw [List.flatMap_cons, List.cons_append, List.cons_append, tokens_comma, List.append_assoc,
        hvalueTokens _ (isBounded_flatMap hrest _ _), htokens _ hrest, List.cons_append,
        List.append_assoc]

/-- Written values between brackets make up a list. -/
theorem spells_writeArray {texts : List String} {nodes : List Node}
    (h : List.Forall₂ Spells texts nodes) : Spells (writeArray texts) (.array (.ofList nodes)) := by
  have htext (texts : List String) (rest : List Char) : (writeArray texts).toList ++ rest =
      '[' :: ((",".intercalate texts).toList ++ ']' :: rest) := by
    simp [writeArray]
  cases h with
  | nil =>
    refine ⟨[.openArray, .closeArray], ⟨⟨_, _, rfl, by simp⟩, fun fuel rest hfuel => ?_⟩,
      fun rest _ => ?_⟩
    · obtain ⟨fuel, rfl⟩ := exists_eq_succ_of_lt hfuel
      rfl
    · rw [htext, tokens_openArray]
      exact congrArg (Token.openArray :: ·) (tokens_closeArray rest)
  | cons hfirst hothers =>
    obtain ⟨value, hvalue, hvalueTokens⟩ := hfirst
    obtain ⟨others, hbuild, htokens⟩ := exists_elements hothers
    refine ⟨.openArray :: (value ++ (others ++ [.closeArray])),
      ⟨⟨_, _, rfl, by simp⟩, fun fuel rest hfuel => ?_⟩, fun rest _ => ?_⟩
    · -- The first value does not look like the end of an empty array.
      obtain ⟨first, more, rfl, hfirst⟩ := hvalue.begins
      obtain ⟨fuel, rfl⟩ := exists_eq_succ_of_lt hfuel
      simp only [List.length_cons, List.length_append, List.length_nil] at hfuel
      have hnode := hvalue.build fuel (others ++ .closeArray :: rest)
        (by rw [List.length_cons]; omega)
      simp only [List.cons_append, List.append_assoc, List.nil_append] at hnode ⊢
      exact Node.build_openArray hfirst hnode (hbuild _ _ (by omega))
    · have hbounded : IsBounded (']' :: rest) := by simp [IsBounded]
      rw [htext, tokens_openArray, toList_intercalate_cons, List.append_assoc,
        hvalueTokens _ (isBounded_flatMap hbounded _ _), htokens _ hbounded, tokens_closeArray]
      simp

/-! ### Records -/

/-- The member has the key, and its text makes up the value. -/
def SpellsMember (member : String × String) (node : String × Node) : Prop :=
  member.1 = node.1 ∧ Spells member.2 node.2

/-- A member as it is written. -/
def writeMember (member : String × String) : String := writeString member.1 ++ ":" ++ member.2

/-- The text of a member begins with its key and a colon. -/
theorem tokens_writeMember (member : String × String) (rest : List Char) :
    tokens ((writeMember member).toList ++ rest) =
      .string (writtenString member.1) :: .colon :: tokens (member.2.toList ++ rest) := by
  have htext : (writeMember member).toList ++ rest =
      (writeString member.1).toList ++ ':' :: (member.2.toList ++ rest) := by
    simp [writeMember]
  rw [htext, tokens_writeString, tokens_colon]

/-- The members of an object from one of them on. -/
theorem exists_members {member : String × String} {node : String × Node}
    {members : List (String × String)} {nodes : List (String × Node)}
    (hmember : SpellsMember member node) (h : List.Forall₂ SpellsMember members nodes) :
    ∃ key spelling,
      (∀ fuel rest, spelling.length < fuel →
        Members.build fuel (.string key :: .colon :: (spelling ++ .closeObject :: rest)) =
          (.ofList (node :: nodes), rest)) ∧
      ∀ rest, IsBounded rest →
        tokens ((",".intercalate ((member :: members).map writeMember)).toList ++ rest) =
          .string key :: .colon :: (spelling ++ tokens rest) := by
  -- Each member takes two steps, and at least a comma, a key, a colon and a token.
  induction h generalizing member node with
  | nil =>
    obtain ⟨hkey, value, hvalue, hvalueTokens⟩ := hmember
    refine ⟨writtenString node.1, value, fun fuel rest hfuel => ?_, fun rest hrest => ?_⟩
    · obtain ⟨fuel, rfl⟩ := exists_eq_succ_of_lt hfuel
      have hless := Nat.le_of_lt_succ hfuel
      obtain ⟨first, more, rfl, -⟩ := hvalue.begins
      obtain ⟨fuel, rfl⟩ := exists_eq_succ_of_lt hless
      exact Members.build_key (hvalue.build _ _ hless) rfl
    · rw [List.map_singleton, String.intercalate_singleton, tokens_writeMember, hkey,
        hvalueTokens _ hrest]
  | cons hnext hothers ih =>
    obtain ⟨hkey, value, hvalue, hvalueTokens⟩ := hmember
    obtain ⟨key, others, hbuild, htokens⟩ := ih hnext
    refine ⟨writtenString node.1, value ++ (.comma :: .string key :: .colon :: others),
      fun fuel rest hfuel => ?_, fun rest hrest => ?_⟩
    · simp only [List.length_cons, List.length_append] at hfuel
      obtain ⟨fuel, rfl⟩ := exists_eq_succ_of_lt hfuel
      obtain ⟨fuel, rfl⟩ := exists_eq_succ_of_lt (Nat.le_of_lt_succ hfuel)
      rw [List.append_assoc]
      exact Members.build_key (hvalue.build _ _ (by omega)) (hbuild fuel rest (by omega))
    · have hbounded (rest : List Char) : IsBounded (',' :: rest) := List.mem_cons_self
      rw [List.map_cons, List.map_cons, String.intercalate_cons_cons, ← List.map_cons,
        String.toList_append, String.toList_append, List.append_assoc, List.append_assoc,
        show ",".toList = [','] from rfl, List.singleton_append, tokens_writeMember, hkey,
        hvalueTokens _ (hbounded _), tokens_comma, htokens _ hrest]
      simp

/-- Written members between braces make up a record. -/
theorem spells_writeObject {members : List (String × String)} {nodes : List (String × Node)}
    (h : List.Forall₂ SpellsMember members nodes) :
    Spells (writeObject members) (.object (.ofList nodes)) := by
  have htext (members : List (String × String)) (rest : List Char) :
      (writeObject members).toList ++ rest =
        '\x7b' :: ((",".intercalate (members.map writeMember)).toList ++ '\x7d' :: rest) := by
    simp [writeObject, show writeMember = fun member => writeString member.1 ++ ":" ++ member.2
      from rfl]
  cases h with
  | nil =>
    refine ⟨[.openObject, .closeObject], ⟨⟨_, _, rfl, by simp⟩, fun fuel rest hfuel => ?_⟩,
      fun rest _ => ?_⟩
    · obtain ⟨fuel, rfl⟩ := exists_eq_succ_of_lt hfuel
      rfl
    · rw [htext, tokens_openObject]
      exact congrArg (Token.openObject :: ·) (tokens_closeObject rest)
  | cons hmember hothers =>
    obtain ⟨key, spelling, hbuild, htokens⟩ := exists_members hmember hothers
    refine ⟨.openObject :: .string key :: .colon :: (spelling ++ [.closeObject]),
      ⟨⟨_, _, rfl, by simp⟩, fun fuel rest hfuel => ?_⟩, fun rest _ => ?_⟩
    · obtain ⟨fuel, rfl⟩ := exists_eq_succ_of_lt hfuel
      simp only [List.length_cons, List.length_append, List.length_nil] at hfuel
      simp only [List.cons_append, List.append_assoc, List.nil_append]
      exact Node.build_openObject (hbuild fuel rest (by omega))
    · have hbounded : IsBounded ('\x7d' :: rest) := by simp [IsBounded]
      rw [htext, tokens_openObject, htokens _ hbounded, tokens_closeObject]
      simp

/-! ### Whole texts -/

/-- A written text has the tree of what was written. -/
theorem ofTokens_of_spells {text : String} {node : Node} (h : Spells text node) :
    Node.ofTokens (tokens text.toList) = (node, []) := by
  obtain ⟨spelling, hbuilds, htokens⟩ := h
  have htext := htokens [] trivial
  rw [List.append_nil, tokens_nil, List.append_nil] at htext
  have hbuild := hbuilds.build (2 * spelling.length + 2) [] (by omega)
  rw [List.append_nil] at hbuild
  rw [htext]
  exact hbuild

/-- A written text is read as what was written. -/
theorem read_of_spells {α : Type} {text : String} {node : Node} (h : Spells text node)
    (reader : Node → Reading α) : read reader text = reader node := by
  rw [read, ofTokens_of_spells h]
  exact bind_pure (reader node)

end KernelBridge.Json
