import Mathlib.Logic.Relation
import KernelBridge.Proofs.Json.Record
import KernelBridge.Proofs.Signature.RoundTrip

/-!
# Documents in other words

The same set of signatures is read from a document whose objects have their members in another
order, or unknown members among them, and from any writing of it, with blanks wherever the grammar
has room for them. An unknown member is passed over whatever its value says, and however deep that
is.

## Main definitions

* `ArgumentEdit`, `SignatureEdit`, `SetEdit` — the changes of a document and of what is in it
* `SignatureSet.Rephrases` — what such changes lead to, one after the other

## Main results

* `ArgumentFields.takesFields`, `SignatureFields.takesFields`, `SetFields.takesFields` — the members
  of each record are taken in independently of each other
* `ignores_readArgument`, `ignores_readSignature`, `ignores_readSet` — one change
* `SignatureSet.rephrased_documents_agree` — any changes, in any writing
-/

namespace KernelBridge

open Json FirstFault

/-! ### Arguments -/

/-- The fields of an argument. -/
def argumentFields : List String := ["name", "kind", "type", "dimensions", "user_context"]

namespace ArgumentFields

/-- What a member adds to the fields that were read: the value of a field that was not there yet,
or nothing if it belongs to none of them. -/
inductive Adds (fields : ArgumentFields) : String → Node → ArgumentFields → Prop where
  | name {value : Node} {found : String} : fields.name = none → readString value = .ok found →
      Adds fields "name" value { fields with name := some found }
  | kind {value : Node} {found : ArgumentKind} : fields.kind = none →
      readChoice ArgumentKind.named value = .ok found →
      Adds fields "kind" value { fields with kind := some found }
  | type {value : Node} {found : ScalarType} : fields.type = none →
      readChoice ScalarType.named value = .ok found →
      Adds fields "type" value { fields with type := some found }
  | dimensions {value : Node} {found : Option UInt32} : fields.dimensions = none →
      readOption readU32 value = .ok found →
      Adds fields "dimensions" value { fields with dimensions := some found }
  | marked {value : Node} {found : Bool} : fields.marked = none → readBool value = .ok found →
      Adds fields "user_context" value { fields with marked := some found }
  | nothing {name : String} {value : Node} : name ∉ argumentFields → value.skip = .ok () →
      Adds fields name value fields

variable {fields next : ArgumentFields} {name : String} {value : Node}

theorem addMember_eq_ok_iff :
    fields.addMember name value = .ok next ↔ Adds fields name value next := by
  constructor
  · -- All members but the last kind belong to a field, and are read alike.
    fun_cases addMember fields name value
    case case6 hname hkind htype hdimensions hmarked =>
      intro h
      obtain ⟨hskip, rfl⟩ := skipMember_eq_ok_iff.mp h
      have hfields : name ∉ argumentFields := by
        simpa [argumentFields] using ⟨hname, hkind, htype, hdimensions, hmarked⟩
      exact .nothing hfields hskip
    all_goals
      intro h
      obtain ⟨hfree, found, hfound, rfl⟩ := addField_eq_ok_iff.mp h
      constructor <;> assumption
  · intro h
    cases h with
    | nothing hname hskip =>
      simp only [argumentFields, List.mem_cons, List.not_mem_nil, or_false, not_or] at hname
      obtain ⟨hname, hkind, htype, hdimensions, hmarked⟩ := hname
      rw [addMember]
      · exact skipMember_eq_ok_iff.mpr ⟨hskip, rfl⟩
      all_goals assumption
    | name hfree hfound | kind hfree hfound | type hfree hfound | dimensions hfree hfound
    | marked hfree hfound =>
      exact addField_eq_ok_iff.mpr ⟨hfree, _, hfound, rfl⟩

theorem takesFields : TakesFields argumentFields addMember where
  thorough h := by
    cases addMember_eq_ok_iff.mp h with
    | name _ hfound => exact isThorough_readString hfound
    | kind _ hfound => exact isThorough_readChoice hfound
    | type _ hfound => exact isThorough_readChoice hfound
    | dimensions _ hfound => exact isThorough_readOption isThorough_readU32 hfound
    | marked _ hfound => exact isThorough_readBool hfound
    | nothing _ hskip => exact hskip
  unknown hname hskip := addMember_eq_ok_iff.mpr (.nothing hname hskip)
  swap h h' := by
    simp only [addMember_eq_ok_iff] at h h' ⊢
    -- A field cannot be added twice, and different fields do not touch each other.
    cases h with
    | name =>
      cases h' with
      | name hfree => cases hfree
      | _ => exact ⟨_, by constructor <;> assumption, by constructor <;> assumption⟩
    | kind =>
      cases h' with
      | kind hfree => cases hfree
      | _ => exact ⟨_, by constructor <;> assumption, by constructor <;> assumption⟩
    | type =>
      cases h' with
      | type hfree => cases hfree
      | _ => exact ⟨_, by constructor <;> assumption, by constructor <;> assumption⟩
    | dimensions =>
      cases h' with
      | dimensions hfree => cases hfree
      | _ => exact ⟨_, by constructor <;> assumption, by constructor <;> assumption⟩
    | marked =>
      cases h' with
      | marked hfree => cases hfree
      | _ => exact ⟨_, by constructor <;> assumption, by constructor <;> assumption⟩
    | nothing hname hskip => exact ⟨_, h', .nothing hname hskip⟩

end ArgumentFields

/-- A change of an argument. -/
def ArgumentEdit : Node → Node → Prop := RecordEdit argumentFields fun _ _ _ => False

theorem isThorough_readArgument : IsThorough readArgument := by
  intro node argument
  fun_cases readArgument node
  · intro h
    obtain ⟨⟨name, kinds⟩, hname, h⟩ := bind_eq_ok_iff.mp h
    obtain ⟨⟨kind, types⟩, hkind, h⟩ := bind_eq_ok_iff.mp h
    obtain ⟨⟨type, optional⟩, htype, h⟩ := bind_eq_ok_iff.mp h
    obtain ⟨⟨dimensions, marks⟩, hdimensions, h⟩ := bind_eq_ok_iff.mp h
    obtain ⟨⟨marked, rest⟩, hmarked, h⟩ := bind_eq_ok_iff.mp h
    obtain ⟨hfinish, -⟩ := then_eq_ok_iff.mp h
    -- From the end: the last element is followed by the bracket.
    have hrest := Elements.skip_of_finish hfinish
    have hmarks := Elements.skip_of_take isThorough_readBool hmarked hrest
    have hoptional :=
      Elements.skip_of_take (isThorough_readOption isThorough_readU32) hdimensions hmarks
    have htypes := Elements.skip_of_demand isThorough_readChoice htype hoptional
    have hkinds := Elements.skip_of_demand isThorough_readChoice hkind htypes
    exact Elements.skip_of_demand isThorough_readString hname hkinds
  · exact ArgumentFields.takesFields.skip_of_ok
  · exact fun h => (wrongType_ne_ok h).elim

/-- An argument is read as before a change. -/
theorem ignores_readArgument : Ignores readArgument ArgumentEdit :=
  ArgumentFields.takesFields.ignores (fun _ => rfl) (fun h => h.elim) fun _ h => h.elim

/-! ### Signatures -/

/-- The fields of a signature. -/
def signatureFields : List String := ["name", "args"]

namespace SignatureFields

/-- What a member adds to the fields that were read. -/
inductive Adds (fields : SignatureFields) : String → Node → SignatureFields → Prop where
  | name {value : Node} {found : String} : fields.name = none → readString value = .ok found →
      Adds fields "name" value { fields with name := some found }
  | arguments {value : Node} {found : List Argument} : fields.arguments = none →
      readList readArgument value = .ok found →
      Adds fields "args" value { fields with arguments := some found }
  | nothing {name : String} {value : Node} : name ∉ signatureFields → value.skip = .ok () →
      Adds fields name value fields

variable {fields next : SignatureFields} {name : String} {value : Node}

theorem addMember_eq_ok_iff :
    fields.addMember name value = .ok next ↔ Adds fields name value next := by
  constructor
  · fun_cases addMember fields name value
    case case3 hname harguments =>
      intro h
      obtain ⟨hskip, rfl⟩ := skipMember_eq_ok_iff.mp h
      have hfields : name ∉ signatureFields := by
        simpa [signatureFields] using ⟨hname, harguments⟩
      exact .nothing hfields hskip
    all_goals
      intro h
      obtain ⟨hfree, found, hfound, rfl⟩ := addField_eq_ok_iff.mp h
      constructor <;> assumption
  · intro h
    cases h with
    | nothing hname hskip =>
      simp only [signatureFields, List.mem_cons, List.not_mem_nil, or_false, not_or] at hname
      obtain ⟨hname, harguments⟩ := hname
      rw [addMember]
      · exact skipMember_eq_ok_iff.mpr ⟨hskip, rfl⟩
      all_goals assumption
    | name hfree hfound | arguments hfree hfound =>
      exact addField_eq_ok_iff.mpr ⟨hfree, _, hfound, rfl⟩

theorem takesFields : TakesFields signatureFields addMember where
  thorough h := by
    cases addMember_eq_ok_iff.mp h with
    | name _ hfound => exact isThorough_readString hfound
    | arguments _ hfound => exact isThorough_readList isThorough_readArgument hfound
    | nothing _ hskip => exact hskip
  unknown hname hskip := addMember_eq_ok_iff.mpr (.nothing hname hskip)
  swap h h' := by
    simp only [addMember_eq_ok_iff] at h h' ⊢
    cases h with
    | name =>
      cases h' with
      | name hfree => cases hfree
      | _ => exact ⟨_, by constructor <;> assumption, by constructor <;> assumption⟩
    | arguments =>
      cases h' with
      | arguments hfree => cases hfree
      | _ => exact ⟨_, by constructor <;> assumption, by constructor <;> assumption⟩
    | nothing hname hskip => exact ⟨_, h', .nothing hname hskip⟩

end SignatureFields

/-- A change of a signature, or of one of its arguments. -/
def SignatureEdit : Node → Node → Prop :=
  RecordEdit signatureFields fun name value other =>
    name = "args" ∧ ListEdit ArgumentEdit value other

theorem readsPair_readSignature :
    ReadsPair readString (readList readArgument) Signature.mk readSignature :=
  ⟨_, _, fun _ => rfl⟩

theorem isThorough_readSignature : IsThorough readSignature := by
  intro node signature
  fun_cases readSignature node
  · exact readsPair_readSignature.skip_of_ok isThorough_readString
      (isThorough_readList isThorough_readArgument)
  · exact SignatureFields.takesFields.skip_of_ok
  · exact fun h => (wrongType_ne_ok h).elim

/-- A signature is read as before a change. -/
theorem ignores_readSignature : Ignores readSignature SignatureEdit := by
  have harguments := ignores_readList ignores_readArgument
  refine SignatureFields.takesFields.ignores (fun _ => rfl) ?_ ?_
  · rintro name value other ⟨hname, hedit⟩ fields next hfields
    rw [SignatureFields.addMember_eq_ok_iff] at hfields ⊢
    cases hfields with
    | arguments hfree hfound => exact .arguments hfree (harguments hedit hfound)
    | name => exact absurd hname (by decide)
    | nothing hunknown =>
      subst hname
      exact absurd (by decide) hunknown
  · rintro before name value other after signature hfield ⟨rfl, hedit⟩ hread
    exact readsPair_readSignature.of_second (by decide) hfield (harguments hedit) hread

/-! ### Sets of signatures -/

/-- The fields of a set of signatures. -/
def setFields : List String := ["version", "functions"]

namespace SetFields

/-- What a member adds to the fields that were read. -/
inductive Adds (fields : SetFields) : String → Node → SetFields → Prop where
  | version {value : Node} {found : String} : fields.version = none →
      readString value = .ok found →
      Adds fields "version" value { fields with version := some found }
  | functions {value : Node} {found : List Signature} : fields.functions = none →
      readList readSignature value = .ok found →
      Adds fields "functions" value { fields with functions := some found }
  | nothing {name : String} {value : Node} : name ∉ setFields → value.skip = .ok () →
      Adds fields name value fields

variable {fields next : SetFields} {name : String} {value : Node}

theorem addMember_eq_ok_iff :
    fields.addMember name value = .ok next ↔ Adds fields name value next := by
  constructor
  · fun_cases addMember fields name value
    case case3 hversion hfunctions =>
      intro h
      obtain ⟨hskip, rfl⟩ := skipMember_eq_ok_iff.mp h
      have hfields : name ∉ setFields := by simpa [setFields] using ⟨hversion, hfunctions⟩
      exact .nothing hfields hskip
    all_goals
      intro h
      obtain ⟨hfree, found, hfound, rfl⟩ := addField_eq_ok_iff.mp h
      constructor <;> assumption
  · intro h
    cases h with
    | nothing hname hskip =>
      simp only [setFields, List.mem_cons, List.not_mem_nil, or_false, not_or] at hname
      obtain ⟨hversion, hfunctions⟩ := hname
      rw [addMember]
      · exact skipMember_eq_ok_iff.mpr ⟨hskip, rfl⟩
      all_goals assumption
    | version hfree hfound | functions hfree hfound =>
      exact addField_eq_ok_iff.mpr ⟨hfree, _, hfound, rfl⟩

theorem takesFields : TakesFields setFields addMember where
  thorough h := by
    cases addMember_eq_ok_iff.mp h with
    | version _ hfound => exact isThorough_readString hfound
    | functions _ hfound => exact isThorough_readList isThorough_readSignature hfound
    | nothing _ hskip => exact hskip
  unknown hname hskip := addMember_eq_ok_iff.mpr (.nothing hname hskip)
  swap h h' := by
    simp only [addMember_eq_ok_iff] at h h' ⊢
    cases h with
    | version =>
      cases h' with
      | version hfree => cases hfree
      | _ => exact ⟨_, by constructor <;> assumption, by constructor <;> assumption⟩
    | functions =>
      cases h' with
      | functions hfree => cases hfree
      | _ => exact ⟨_, by constructor <;> assumption, by constructor <;> assumption⟩
    | nothing hname hskip => exact ⟨_, h', .nothing hname hskip⟩

end SetFields

/-- A change of a document, or of one of its signatures. -/
def SetEdit : Node → Node → Prop :=
  RecordEdit setFields fun name value other =>
    name = "functions" ∧ ListEdit SignatureEdit value other

theorem readsPair_readSet :
    ReadsPair readString (readList readSignature) SignatureSet.mk readSet :=
  ⟨_, _, fun _ => rfl⟩

theorem isThorough_readSet : IsThorough readSet := by
  intro node set
  fun_cases readSet node
  · exact readsPair_readSet.skip_of_ok isThorough_readString
      (isThorough_readList isThorough_readSignature)
  · exact SetFields.takesFields.skip_of_ok
  · exact fun h => (wrongType_ne_ok h).elim

/-- A set of signatures is read as before a change. -/
theorem ignores_readSet : Ignores readSet SetEdit := by
  have hfunctions := ignores_readList ignores_readSignature
  refine SetFields.takesFields.ignores (fun _ => rfl) ?_ ?_
  · rintro name value other ⟨hname, hedit⟩ fields next hfields
    rw [SetFields.addMember_eq_ok_iff] at hfields ⊢
    cases hfields with
    | functions hfree hfound => exact .functions hfree (hfunctions hedit hfound)
    | version => exact absurd hname (by decide)
    | nothing hunknown =>
      subst hname
      exact absurd (by decide) hunknown
  · rintro before name value other after set hfield ⟨rfl, hedit⟩ hread
    exact readsPair_readSet.of_second (by decide) hfield (hfunctions hedit) hread

/-! ### Texts -/

namespace SignatureSet

/-- The document in other words: the changes are made one after the other. -/
def Rephrases : Node → Node → Prop := Relation.ReflTransGen SetEdit

/-- A set of signatures is read as before any number of changes. -/
theorem ignores_rephrases : Ignores readSet Rephrases := by
  intro tree other set h hread
  induction h with
  | refl => exact hread
  | tail _ hedit ih => exact ignores_readSet hedit ih

/-- A text is parsed iff it is a writing of a tree from which a valid set is read. -/
theorem parse_eq_ok_iff_tree {text : String} {set : SignatureSet} :
    parse text = .ok set ↔
      ∃ tree : Node, tree.IsWrittenAs text ∧ readSet tree = .ok set ∧ set.validate = .ok () := by
  rw [parse_eq_ok_iff, read, mapError_eq_ok_iff, read_eq_ok_iff isThorough_readSet]
  constructor
  · rintro ⟨⟨tree, hwritten, hread⟩, hvalid⟩
    exact ⟨tree, hwritten, hread, hvalid⟩
  · rintro ⟨tree, hwritten, hread, hvalid⟩
    exact ⟨⟨tree, hwritten, hread⟩, hvalid⟩

/-- **Documents in other words.** A text that is parsed is a writing of one tree. Whatever changes
are made to this tree, every writing of what they lead to is parsed as the same set. -/
theorem rephrased_documents_agree {text : String} {set : SignatureSet}
    (parsed : parse text = .ok set) :
    ∃ tree : Node, (∀ other : Node, other.IsWrittenAs text ↔ other = tree) ∧
      ∀ (other : Node) (rewritten : String), Rephrases tree other →
        other.IsWrittenAs rewritten → parse rewritten = .ok set := by
  obtain ⟨tree, hwritten, hread, hvalid⟩ := parse_eq_ok_iff_tree.mp parsed
  refine ⟨tree, fun other => ⟨fun hother => hother.unique hwritten, ?_⟩, ?_⟩
  · rintro rfl
    exact hwritten
  · intro other rewritten hrephrases hrewritten
    have hsame := ignores_rephrases hrephrases hread
    exact parse_eq_ok_iff_tree.mpr ⟨other, hrewritten, hsame, hvalid⟩

/-- The members of the only signature change places, and an unknown member is put into the
document, with a number out of range and half a pair of code units in it. -/
theorem rephrased_documents_agree_on_strange_members :
    parse "\x7b\"version\":\"1.0\",\"functions\":[\x7b\"name\":\"ops::f\",\"args\":[]\x7d]\x7d" =
        .ok ⟨"1.0", [⟨"ops::f", []⟩]⟩ ∧
      parse ("\x7b \"version\":\"1.0\", \"x\" : [1e400, \"\\ud800\"],\n" ++
          "\t\"functions\":[ \x7b\"args\":[],\"name\":\"ops::f\"\x7d]\x7d ") =
        .ok ⟨"1.0", [⟨"ops::f", []⟩]⟩ := by
  have hsignature (name arguments : StringToken × Node) :
      SignatureEdit (.object (.ofPairs [name, arguments])) (.object (.ofPairs [arguments, name])) :=
    .permute (.swap _ _ _)
  have hwithin (version : StringToken × Node) {signature other : Node}
      (h : SignatureEdit signature other) :
      SetEdit
        (.object (.ofPairs [version, (writtenString "functions", .array (.ofList [signature]))]))
        (.object (.ofPairs [version, (writtenString "functions", .array (.ofList [other]))])) :=
    @RecordEdit.within _ _ [version] [] _ "functions" _ _ (text_writtenString _)
      ⟨rfl, @ListEdit.element _ [] [] _ _ h⟩
  have hinsert (version functions : StringToken × Node) {value : Node}
      (h : ∃ text, value.IsWrittenAs text) :
      SetEdit (.object (.ofPairs [version, functions]))
        (.object (.ofPairs [version, (writtenString "x", value), functions])) :=
    @RecordEdit.insert _ _ [version] [functions] _ "x" _ (text_writtenString _) (by decide) h
  have hstrange : Node.IsWrittenAs (.array (.ofList
      [.number ⟨false, ['1'], [], some (false, ['4', '0', '0'])⟩, .string ⟨[.unit 0xD800], none⟩]))
      "[1e400, \"\\ud800\"]" :=
    Node.isWrittenAs_iff_tokens.mpr ⟨by decide +kernel, rfl⟩
  have hwritten : (node ⟨"1.0", [⟨"ops::f", []⟩]⟩).IsWrittenAs
      "\x7b\"version\":\"1.0\",\"functions\":[\x7b\"name\":\"ops::f\",\"args\":[]\x7d]\x7d" :=
    Node.isWrittenAs_iff_tokens.mpr ⟨by decide +kernel, rfl⟩
  have parsed := parse_eq_ok_iff_tree.mpr ⟨_, hwritten, readSet_node _, rfl⟩
  obtain ⟨tree, htree, hagree⟩ := rephrased_documents_agree parsed
  obtain rfl := (htree _).mp hwritten
  refine ⟨parsed, hagree _ _ (.tail (.single (hwithin
    (writtenString "version", .string (writtenString "1.0")) (hsignature
      (writtenString "name", .string (writtenString "ops::f"))
      (writtenString "args", .array .closed)))) (hinsert _ _ ⟨_, hstrange⟩)) ?_⟩
  exact Node.isWrittenAs_iff_tokens.mpr ⟨by decide +kernel, rfl⟩

end SignatureSet

end KernelBridge
