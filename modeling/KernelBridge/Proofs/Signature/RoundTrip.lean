import KernelBridge.Proofs.Json.Tree
import KernelBridge.Signature.Document

/-!
# Signature documents read back

The written form of a set of signatures leaves out what says nothing, and escapes what a string
cannot hold. Reading it gives the same set, so that parsing what was written fails only where
the set is not valid.

## Main definitions

* `Argument.node`, `Signature.node`, `SignatureSet.node` — the trees of what is written

## Main results

* `SignatureSet.read_write` — every set is read back
* `SignatureSet.parse_write` — the written form of a set is parsed to the set, if it is valid
-/

namespace KernelBridge

open Json FirstFault

/-! ### Written values read back -/

namespace Json

theorem readString_writtenString (s : String) : readString (.string (writtenString s)) = .ok s := by
  rw [readString, StringToken.read, text_writtenString]
  rfl

/-- A choice is read back from its name. -/
theorem readChoice_writtenString {α : Type} {choices : List (String × α)} {name : String}
    {choice : α} (h : choices.lookup name = some choice) :
    readChoice choices (.string (writtenString name)) = .ok choice := by
  have hread := readString_writtenString name
  rw [readString] at hread
  rw [readChoice, hread]
  change choose choices name = _
  rw [choose, h]

theorem readU32_writtenNumeral (n : UInt32) :
    readU32 (.number (writtenNumeral n.toNat)) = .ok n := by
  have hsize := n.toNat_lt
  have hvalue := value?_writtenNumeral (n := n.toNat) (by
    rw [maxSignificand]
    have hlarge : 2 ^ 32 ≤ UInt64.size - 1 := by decide
    omega)
  have hread : (writtenNumeral n.toNat).read = .ok (.natural n.toNat) := by
    rw [Numeral.read, hvalue]
  rw [readU32, hread]
  change (if n.toNat < UInt32.size then _ else _) = _
  rw [if_pos hsize]
  exact congrArg Except.ok (UInt32.ofNat_toNat)

theorem collect_ofList {α : Type} {reader : Node → Reading α} {values : List α} {node : α → Node}
    (h : ∀ value ∈ values, reader (node value) = .ok value) :
    (Elements.ofList (values.map node)).collect reader = .ok values := by
  induction values with
  | nil => rfl
  | cons value rest ih =>
    obtain ⟨hvalue, hrest⟩ := List.forall_mem_cons.mp h
    rw [List.map_cons, Elements.ofList, Elements.collect, hvalue, ih hrest]
    rfl

/-- The first value of a field is taken. -/
theorem readField_of_ok {α : Type} {name : String} {reader : Node → Reading α} {value : Node}
    {result : α} (h : reader value = .ok result) :
    readField name none reader value = .ok (some result) := by
  rw [readField, h]
  rfl

section Fold

variable {σ : Type} {step : σ → String → Node → Reading σ} {state next : σ} {key : String}
  {value : Node} {rest : List (String × Node)}

/-- A member that is taken in leaves the others to be gone through. -/
theorem fold_ofList_cons (h : step state key value = .ok next) :
    (Members.ofList ((key, value) :: rest)).fold step state =
      (Members.ofList rest).fold step next := by
  have hkey : (writtenString key).read = .ok key := by
    rw [StringToken.read, text_writtenString]
    rfl
  rw [Members.ofList, Members.fold, hkey]
  change (step state key value >>= _) = _
  rw [h]
  rfl

end Fold

end Json

/-! ### Arguments -/

namespace Argument

/-- The members of the object of an argument: what says nothing is left out. -/
def members (argument : Argument) : List (String × Node) :=
  [("name", .string (writtenString argument.name)),
    ("kind", .string (writtenString argument.kind.name)),
    ("type", .string (writtenString argument.type.name))]
  ++ (match argument.dimensions with
    | some dimensions => [("dimensions", .number (writtenNumeral dimensions.toNat))]
    | none => [])
  ++ (if argument.marked then [("user_context", .bool true)] else [])

/-- The tree of a written argument. -/
def node (argument : Argument) : Node := .object (.ofList argument.members)

theorem spells_write (argument : Argument) : Spells argument.write argument.node := by
  have hdimensions (dimensions : Option UInt32) : List.Forall₂ SpellsMember
      (match dimensions with
        | some dimensions => [("dimensions", toString dimensions.toNat)]
        | none => [])
      (match dimensions with
        | some dimensions => [("dimensions", .number (writtenNumeral dimensions.toNat))]
        | none => []) := by
    cases dimensions with
    | none => exact .nil
    | some dimensions => exact .cons ⟨rfl, spells_toString _⟩ .nil
  have hmarked (marked : Bool) : List.Forall₂ SpellsMember
      (if marked then [("user_context", "true")] else [])
      (if marked then [("user_context", .bool true)] else []) := by
    cases marked with
    | false => exact .nil
    | true => exact .cons ⟨rfl, spells_true⟩ .nil
  refine spells_writeObject (List.rel_append (List.rel_append ?_ (hdimensions _)) (hmarked _))
  exact .cons ⟨rfl, spells_writeString _⟩ (.cons ⟨rfl, spells_writeString _⟩
    (.cons ⟨rfl, spells_writeString _⟩ .nil))

theorem lookup_kind (kind : ArgumentKind) : ArgumentKind.named.lookup kind.name = some kind := by
  cases kind <;> rfl

theorem lookup_type (type : ScalarType) : ScalarType.named.lookup type.name = some type := by
  cases type <;> rfl

/-- The first three members are always there. -/
theorem fold_required (argument : Argument) (rest : List (String × Node)) :
    (Members.ofList ([("name", .string (writtenString argument.name)),
      ("kind", .string (writtenString argument.kind.name)),
      ("type", .string (writtenString argument.type.name))] ++ rest)).fold
        ArgumentFields.addMember {} =
      (Members.ofList rest).fold ArgumentFields.addMember
        { name := some argument.name, kind := some argument.kind, type := some argument.type } := by
  have hname : ArgumentFields.addMember {} "name" (.string (writtenString argument.name)) =
      .ok { name := some argument.name } := by
    change (readField "name" none readString _ >>= _) = _
    rw [readField_of_ok (readString_writtenString _)]
    rfl
  have hkind : ArgumentFields.addMember { name := some argument.name } "kind"
      (.string (writtenString argument.kind.name)) =
        .ok { name := some argument.name, kind := some argument.kind } := by
    change (readField "kind" none (readChoice ArgumentKind.named) _ >>= _) = _
    rw [readField_of_ok (readChoice_writtenString (lookup_kind _))]
    rfl
  have htype : ArgumentFields.addMember
      { name := some argument.name, kind := some argument.kind } "type"
        (.string (writtenString argument.type.name)) =
      .ok { name := some argument.name, kind := some argument.kind,
            type := some argument.type } := by
    change (readField "type" none (readChoice ScalarType.named) _ >>= _) = _
    rw [readField_of_ok (readChoice_writtenString (lookup_type _))]
    rfl
  exact (fold_ofList_cons hname).trans ((fold_ofList_cons hkind).trans (fold_ofList_cons htype))

section Optional

variable {fields : ArgumentFields} {rest : List (String × Node)}

/-- The number of dimensions is there if it is known. -/
theorem fold_dimensions (hfields : fields.dimensions = none) (dimensions : Option UInt32) :
    (Members.ofList ((match dimensions with
      | some dimensions => [("dimensions", .number (writtenNumeral dimensions.toNat))]
      | none => []) ++ rest)).fold ArgumentFields.addMember fields =
      (Members.ofList rest).fold ArgumentFields.addMember
        { fields with dimensions := dimensions.map some } := by
  cases dimensions with
  | none =>
    rw [Option.map_none, ← hfields]
    rfl
  | some dimensions =>
    refine fold_ofList_cons ?_
    have hread : readOption readU32 (.number (writtenNumeral dimensions.toNat)) =
        .ok (some dimensions) := by
      change (readU32 _ >>= _) = _
      rw [readU32_writtenNumeral]
      rfl
    change (readField "dimensions" fields.dimensions (readOption readU32) _ >>= _) = _
    rw [hfields, readField_of_ok hread]
    rfl

/-- The mark is there if it is set. -/
theorem fold_marked (hfields : fields.marked = none) (marked : Bool) :
    (Members.ofList (if marked then [("user_context", .bool true)] else [])).fold
        ArgumentFields.addMember fields =
      .ok { fields with marked := if marked then some true else none } := by
  cases marked with
  | false =>
    simp only [Bool.false_eq_true, if_false, ← hfields]
    rfl
  | true =>
    refine fold_ofList_cons ?_
    change (readField "user_context" fields.marked readBool _ >>= _) = _
    have hread : readBool (.bool true) = .ok true := rfl
    rw [hfields, readField_of_ok hread]
    rfl

end Optional

/-- An argument is read back from its tree. -/
theorem readArgument_node (argument : Argument) : readArgument argument.node = .ok argument := by
  have hmembers : (Members.ofList argument.members).fold ArgumentFields.addMember {} =
      .ok ⟨some argument.name, some argument.kind, some argument.type,
        argument.dimensions.map some, if argument.marked then some true else none⟩ := by
    rw [members, List.append_assoc, fold_required, fold_dimensions rfl, fold_marked rfl]
  change ((Members.ofList argument.members).fold _ _ >>= _) = _
  rw [hmembers]
  rcases argument with ⟨name, kind, type, - | dimensions, - | -⟩ <;> rfl

end Argument

/-! ### Signatures and sets of them -/

namespace Signature

/-- The tree of a written signature. -/
def node (signature : Signature) : Node :=
  .object (.ofList [("name", .string (writtenString signature.name)),
    ("args", .array (.ofList (signature.arguments.map Argument.node)))])

theorem spells_write (signature : Signature) : Spells signature.write signature.node := by
  have harguments : List.Forall₂ Spells (signature.arguments.map Argument.write)
      (signature.arguments.map Argument.node) := by
    rw [List.forall₂_map_left_iff, List.forall₂_map_right_iff, List.forall₂_same]
    exact fun argument _ => argument.spells_write
  exact spells_writeObject (.cons ⟨rfl, spells_writeString _⟩
    (.cons ⟨rfl, spells_writeArray harguments⟩ .nil))

/-- A signature is read back from its tree. -/
theorem readSignature_node (signature : Signature) :
    readSignature signature.node = .ok signature := by
  have hname : SignatureFields.addMember {} "name" (.string (writtenString signature.name)) =
      .ok { name := some signature.name } := by
    change (readField "name" none readString _ >>= _) = _
    rw [readField_of_ok (readString_writtenString _)]
    rfl
  have harguments : SignatureFields.addMember { name := some signature.name } "args"
      (.array (.ofList (signature.arguments.map Argument.node))) =
        .ok { name := some signature.name, arguments := some signature.arguments } := by
    change (readField "args" none (readList readArgument) _ >>= _) = _
    rw [readField_of_ok (collect_ofList fun argument _ => argument.readArgument_node)]
    rfl
  change ((Members.ofList _).fold SignatureFields.addMember {} >>= _) = _
  rw [fold_ofList_cons hname, fold_ofList_cons harguments]
  rfl

end Signature

namespace SignatureSet

/-- The tree of a written set. -/
def node (set : SignatureSet) : Node :=
  .object (.ofList [("version", .string (writtenString set.version)),
    ("functions", .array (.ofList (set.functions.map Signature.node)))])

theorem spells_write (set : SignatureSet) : Spells set.write set.node := by
  have hfunctions : List.Forall₂ Spells (set.functions.map Signature.write)
      (set.functions.map Signature.node) := by
    rw [List.forall₂_map_left_iff, List.forall₂_map_right_iff, List.forall₂_same]
    exact fun signature _ => signature.spells_write
  exact spells_writeObject (.cons ⟨rfl, spells_writeString _⟩
    (.cons ⟨rfl, spells_writeArray hfunctions⟩ .nil))

/-- A set is read back from its tree. -/
theorem readSet_node (set : SignatureSet) : readSet set.node = .ok set := by
  have hversion : SetFields.addMember {} "version" (.string (writtenString set.version)) =
      .ok { version := some set.version } := by
    change (readField "version" none readString _ >>= _) = _
    rw [readField_of_ok (readString_writtenString _)]
    rfl
  have hfunctions : SetFields.addMember { version := some set.version } "functions"
      (.array (.ofList (set.functions.map Signature.node))) =
        .ok { version := some set.version, functions := some set.functions } := by
    change (readField "functions" none (readList readSignature) _ >>= _) = _
    rw [readField_of_ok (collect_ofList fun signature _ => signature.readSignature_node)]
    rfl
  change ((Members.ofList _).fold SetFields.addMember {} >>= _) = _
  rw [fold_ofList_cons hversion, fold_ofList_cons hfunctions]
  rfl

/-- Every set is read back from its written form, valid or not. -/
theorem read_write (set : SignatureSet) : read set.write = .ok set := by
  rw [read, read_of_spells set.spells_write, readSet_node]
  rfl

/-- Parsing the written form of a set fails exactly as checking the set does. -/
theorem parse_write (set : SignatureSet) : parse set.write = set.validate.map fun _ => set := by
  rw [parse, read_write]
  change (set.validate >>= fun _ => pure set) = _
  cases set.validate <;> rfl

theorem parse_eq_ok_iff {text : String} {set : SignatureSet} :
    parse text = .ok set ↔ read text = .ok set ∧ set.validate = .ok () := by
  rw [parse, bind_eq_ok_iff]
  simp only [then_eq_ok_iff]
  constructor
  · rintro ⟨found, hread, hvalid, hfound⟩
    obtain rfl := Except.ok.inj hfound
    exact ⟨hread, hvalid⟩
  · rintro ⟨hread, hvalid⟩
    exact ⟨set, hread, hvalid, rfl⟩

/-- The written form of a set is parsed to that set exactly if the set is valid. -/
theorem parse_write_eq_ok_iff {set : SignatureSet} :
    parse set.write = .ok set ↔ set.validate = .ok () := by
  rw [parse_write]
  cases set.validate <;> simp [Except.map]

/-- **Documents round-trip.** The written form of a set, whose tree leaves out what says nothing,
is parsed to that set exactly if the set is valid. So writing what was parsed from any text and
parsing it again changes nothing. -/
theorem documents_roundTrip :
    (∀ set : SignatureSet,
      Node.ofTokens (tokens set.write.toList) = (set.node, []) ∧
        (parse set.write = .ok set ↔ set.validate = .ok ())) ∧
      ∀ text set, parse text = .ok set → parse set.write = .ok set :=
  ⟨fun set => ⟨ofTokens_of_spells set.spells_write, parse_write_eq_ok_iff⟩,
    fun _ _ parsed => parse_write_eq_ok_iff.mpr (parse_eq_ok_iff.mp parsed).2⟩

/-- Names that need escapes of every kind, dimensions on a scalar and none on a buffer, and a
document in another spelling. -/
theorem documents_roundTrip_escapes :
    parse (write ⟨"1.0", [⟨"ops::f", [
        { name := "\"\\/\t\x01\x7f\u2028é😀", kind := .scalar, type := .f32,
          dimensions := some 4294967295 },
        { name := "y", kind := .buffer, type := .u8 },
        { name := "context", kind := .scalar, type := .handle, marked := true }]⟩]⟩) =
      .ok ⟨"1.0", [⟨"ops::f", [
        { name := "\"\\/\t\x01\x7f\u2028é😀", kind := .scalar, type := .f32,
          dimensions := some 4294967295 },
        { name := "y", kind := .buffer, type := .u8 },
        { name := "context", kind := .scalar, type := .handle, marked := true }]⟩]⟩ ∧
    parse " [\"1\\u002e0\", [ ]]" = .ok ⟨"1.0", []⟩ ∧
      parse (write ⟨"1.0", []⟩) = .ok ⟨"1.0", []⟩ := by
  have hother : parse " [\"1\\u002e0\", [ ]]" = .ok ⟨"1.0", []⟩ := rfl
  exact ⟨(documents_roundTrip.1 _).2.mpr rfl, hother, documents_roundTrip.2 _ _ hother⟩

end SignatureSet

end KernelBridge
