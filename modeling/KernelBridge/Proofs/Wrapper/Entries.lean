import KernelBridge.Proofs.Wrapper.LegalNames

/-!
# Parameters read back

The header of a wrapper and the call in its body are all that a reader of the file sees of the
kernel's arguments. Both are lists of entries with commas between them, and no entry holds a comma.
So the entries of a header tell the name and the kind of every argument but the user context, and
the type of every scalar; and those of the call tell which argument is the user context, and which
ones are buffers.

## Main definitions

* `Entry`, `Line.readEntry` — what an entry of a header says
* `Argument.entry` — what it should say of an argument
* `Argument.IsPassed` — what the call should hold for an argument
* `Signature.IsReadFrom` — a wrapper from which a signature is read

## Main results

* `Parameter.readEntry_wrapperText` — every entry is read as what it was written for
* `Plan.isPassed_callText` — every argument is passed as it should be
* `Generator.signatures_isReadFrom` — the signatures in a file
-/

namespace KernelBridge

/-! ### Entries of a header -/

/-- An entry of a header: a tensor by reference, or a scalar by value. -/
inductive Entry where
  | tensor (name : String)
  | value (type : ScalarType) (name : String)
  deriving DecidableEq, Repr

/-- The entry of an argument, under the identifier that stands for its name. -/
def Argument.entry (argument : Argument) : Entry :=
  match argument.kind with
  | .buffer => .tensor (Cpp.identifier argument.name)
  | .scalar => .value argument.type (Cpp.identifier argument.name)

namespace Line

/-- What stands in front of the name in an entry. -/
def entryFront (entry : String) : String :=
  String.ofList (entry.toList.rdropWhile fun c => !endsType c)

/-- What an entry says, by what stands in front of its name. -/
def readEntry (entry : String) : Option Entry :=
  if entryFront entry = "at::Tensor &" then some (.tensor (entryName entry))
  else (ScalarType.all.find? fun type => type.cPrefix == entryFront entry).map fun type =>
    .value type (entryName entry)

end Line

/-- No two types stand in front of a name in the same way. -/
theorem ScalarType.find?_cPrefix (type : ScalarType) :
    (all.find? fun other => other.cPrefix == type.cPrefix) = some type := by
  cases type <;> decide

namespace Parameter

/-- What stands in front of an identifier is found again. -/
theorem entryFront_append {front name : String} (hname : Cpp.isIdentifier name = true)
    (hfront : front.toList.rtakeWhile (fun c => !Line.endsType c) = []) :
    Line.entryFront (front ++ name) = front := by
  have hback : (front ++ name).toList.rtakeWhile (fun c => !Line.endsType c) = name.toList := by
    have hentry := entryName_append hname hfront
    rwa [Line.entryName, ← String.toList_inj, String.toList_ofList] at hentry
  have hwhole : (front ++ name).toList.rdropWhile (fun c => !Line.endsType c) ++ name.toList =
      front.toList ++ name.toList := by
    rw [← hback, List.rdropWhile_append_rtakeWhile, hback, String.toList_append]
  rw [Line.entryFront, List.append_cancel_right hwhole, String.ofList_toList]

/-- Every entry is read as what it was written for. -/
theorem readEntry_wrapperText (argument : Argument) :
    Line.readEntry (ofArgument argument).wrapperText = some argument.entry := by
  have hname : Cpp.isIdentifier (Cpp.identifier argument.name) = true :=
    Cpp.isIdentifier_identifier argument.name
  have hentry : Line.entryName (ofArgument argument).wrapperText = Cpp.identifier argument.name :=
    entryName_wrapperText hname
  rw [Line.readEntry, hentry]
  cases hkind : argument.kind with
  | buffer =>
    have htext : (ofArgument argument).wrapperText =
        "at::Tensor &" ++ Cpp.identifier argument.name := by
      simp [wrapperText, ofArgument, hkind]
    rw [htext, entryFront_append hname (by decide), if_pos rfl, Argument.entry, hkind]
  | scalar =>
    have htext : (ofArgument argument).wrapperText =
        argument.type.cPrefix ++ Cpp.identifier argument.name := by
      simp [wrapperText, ofArgument, hkind]
    have hfront : Line.entryFront (argument.type.cPrefix ++ Cpp.identifier argument.name) =
        argument.type.cPrefix :=
      entryFront_append hname (by cases argument.type <;> decide)
    have htensor : argument.type.cPrefix ≠ "at::Tensor &" := by
      cases argument.type <;> decide
    rw [htext, hfront, if_neg htensor, ScalarType.find?_cPrefix, Argument.entry, hkind]
    rfl

end Parameter

/-! ### Arguments of a call -/

/-- What stands in the call for an argument: the user context under the name that wrappers give
it, the view of a buffer, or the parameter itself. -/
structure Argument.IsPassed (argument : Argument) (passed : String) : Prop where
  context : passed = "__user_context" ↔ argument.isContext = true
  view : passed = Cpp.identifier argument.name ++ "_buffer" ↔ argument.isBuffer = true
  scalar : argument.isContext = false → argument.isBuffer = false →
    passed = Cpp.identifier argument.name

namespace Plan

variable {backend : Backend} {signature : Signature} {plan : Plan}

/-- No identifier has the name of its own view. -/
theorem ne_append_buffer (name : String) : name ≠ name ++ "_buffer" := by
  intro heq
  have hlength := congrArg String.length heq
  rw [String.length_append] at hlength
  have hsuffix : "_buffer".length = 7 := by decide
  omega

/-- Every argument of an accepted signature is passed as it should be. -/
theorem isPassed_callText (accepted : ofSignature backend signature = .ok plan)
    {argument : Argument} (hargument : argument ∈ signature.arguments) :
    argument.IsPassed (Parameter.ofArgument argument).callText := by
  have hparameter : Parameter.ofArgument argument ∈ plan.parameters := by
    rw [parameters_eq accepted]
    exact List.mem_map_of_mem hargument
  have hcontext := (isPassedAs accepted hparameter).isContext
  by_cases hmarked : argument.isContext = true
  · have hpassed : (Parameter.ofArgument argument).callText = contextName := if_pos hmarked
    have hvalue : argument.isBuffer = false := context_not_buffer accepted _ hparameter hmarked
    refine ⟨hcontext, iff_of_false ?_ (by simp [hvalue]), fun hno => ?_⟩
    · -- The name of the user context does not end as that of a view does.
      rw [hpassed]
      intro heq
      have hsuffix : "_buffer".toList <:+ contextName.toList := by
        rw [heq, String.toList_append]
        exact List.suffix_append _ _
      exact absurd hsuffix (by decide)
    · rw [hmarked] at hno
      cases hno
  · by_cases hbuffer : argument.isBuffer = true
    · have hpassed : (Parameter.ofArgument argument).callText =
          Cpp.identifier argument.name ++ "_buffer" :=
        (if_neg hmarked).trans (if_pos hbuffer)
      refine ⟨hcontext, iff_of_true hpassed hbuffer, fun _ hno => ?_⟩
      rw [hbuffer] at hno
      cases hno
    · have hpassed : (Parameter.ofArgument argument).callText = Cpp.identifier argument.name :=
        (if_neg hmarked).trans (if_neg hbuffer)
      refine ⟨hcontext, iff_of_false ?_ hbuffer, fun _ _ => hpassed⟩
      rw [hpassed]
      exact ne_append_buffer _

end Plan

/-! ### Signatures in a file -/

namespace Signature

/-- A wrapper from which the signature is read: its header has one entry for each argument but the
user context, and it calls the kernel with something for each argument. -/
structure IsReadFrom (signature : Signature) (wrapper : Definition) : Prop where
  entries : wrapper.site.parameters.map Line.readEntry =
    signature.publicArguments.map fun argument => some argument.entry
  /-- There is one entry less exactly if there is a user context. -/
  lacksEntry : wrapper.site.parameters.length + 1 = signature.arguments.length ↔
    ∃ argument ∈ signature.arguments, argument.isContext = true
  /-- The wrapper and the kernel that it calls are named by the last part of the signature's
  name. -/
  call : ∃ name, Cpp.QualifiedName.parse signature.name = .ok name ∧
    wrapper.site.name = name.simple ++ "_th_" ∧
    ∃ passed, wrapper.calls = [(name.simple, passed)] ∧
      List.Forall₂ Argument.IsPassed signature.arguments passed

/-- All arguments but the user context are public, and a valid signature has at most one. -/
theorem length_publicArguments {signature : Signature} (valid : signature.validate = .ok ()) :
    signature.publicArguments.length + 1 = signature.arguments.length ↔
      ∃ argument ∈ signature.arguments, argument.isContext = true := by
  obtain ⟨-, -, -, hcontexts⟩ := validate_eq_ok_iff.mp valid
  have hlength : signature.arguments.length =
      (signature.arguments.filter Argument.isContext).length +
        signature.publicArguments.length :=
    List.length_eq_length_filter_add Argument.isContext
  have hsome : 0 < (signature.arguments.filter Argument.isContext).length ↔
      ∃ argument ∈ signature.arguments, argument.isContext = true := by
    rw [List.length_filter_pos_iff]
  rw [← hsome]
  omega

end Signature

/-- An accepted signature is read from the wrapper of its plan. -/
theorem Plan.isReadFrom_definition {backend : Backend} {signature : Signature} {plan : Plan}
    (accepted : ofSignature backend signature = .ok plan) (flushCache : Bool) :
    signature.IsReadFrom (plan.definition backend flushCache) := by
  have hpublic := publicParameters_eq accepted
  obtain ⟨hvalid, -⟩ := ofSignature_eq_ok_iff.mp accepted
  refine ⟨?_, ?_, _, (parse_qualifiedName accepted).2, rfl, _, calls_definition, ?_⟩
  · rw [definition, hpublic, List.map_map, List.map_map]
    simp only [Function.comp_def, Parameter.readEntry_wrapperText]
  · rw [← Signature.length_publicArguments hvalid, definition, hpublic, List.length_map,
      List.length_map]
  · rw [parameters_eq accepted, List.map_map, List.forall₂_map_right_iff, List.forall₂_same]
    exact fun argument hargument => isPassed_callText accepted hargument

namespace Generator

variable {generator : Generator} {signatures : List Signature}

/-- **Signatures in a file.** Below the preamble of a file there is one wrapper for each
signature, in order. The entries of its header give the identifier, the kind and, for a scalar,
the type of every argument but the user context, and the call of the kernel has one entry for
every argument. -/
theorem signatures_isReadFrom {settings : Tracing.Performance} {elapsed : UInt64}
    {source : String}
    (generated : (generator.generate settings elapsed signatures).result = .ok source) :
    ∃ text placed, source = sourceText (preamble generator.target) ++ text ∧
      outline [] (readLines text) = some placed ∧
      List.Forall₂ Signature.IsReadFrom signatures (definitions placed) := by
  obtain ⟨plans, accepted, rfl⟩ := generate_eq_ok_iff.mp generated
  obtain ⟨-, hkeeps, -⟩ := plan_eq_ok_iff.mp accepted
  obtain ⟨first, second, houtline, -, -, -, hdefinitions, hall, -⟩ :=
    outline_below generator plans (isNamed_of_accepted accepted)
  refine ⟨_, first ++ second, source_eq_append generator plans, houtline, ?_⟩
  rw [hall, hdefinitions, List.forall₂_map_right_iff]
  exact hkeeps.imp fun signature plan keeps => Plan.isReadFrom_definition keeps.planned _

/-- Of a pointer, a user context under a name of its own, a buffer and a repaired keyword, and of
no arguments at all. -/
theorem signatures_isReadFrom_mixed :
    ∃ source text placed,
      (generate ⟨.ofBackend .metal, {}⟩ {} 0
        [⟨"ops::f", [.scalar "p.tr" .handle, { Argument.context with name := "ctx" },
          .buffer "in-put" .f32 2, .scalar "class" .i32]⟩, ⟨"g", []⟩]).result = .ok source ∧
      source = sourceText (preamble (.ofBackend .metal)) ++ text ∧
      outline [] (readLines text) = some placed ∧
      ∃ first second, definitions placed = [first, second] ∧
        first.site.parameters.map Line.readEntry =
          [some (.value .handle "p_tr"), some (.tensor "in_put"), some (.value .i32 "_class")] ∧
        first.calls = [("f", ["p_tr", "__user_context", "in_put_buffer", "_class"])] ∧
        second.site.parameters = [] := by
  have generated : (generate ⟨.ofBackend .metal, {}⟩ {} 0
      [⟨"ops::f", [.scalar "p.tr" .handle, { Argument.context with name := "ctx" },
        .buffer "in-put" .f32 2, .scalar "class" .i32]⟩, ⟨"g", []⟩]).result = .ok _ := rfl
  obtain ⟨text, placed, hsource, houtline, hread⟩ := signatures_isReadFrom generated
  refine ⟨_, text, placed, generated, hsource, houtline, ?_⟩
  obtain ⟨first, _, hfirst, hrest, hall⟩ := List.forall₂_cons_left_iff.mp hread
  obtain ⟨second, _, hsecond, ⟨⟩, rfl⟩ := List.forall₂_cons_left_iff.mp hrest
  refine ⟨first, second, hall, hfirst.entries.trans (by decide +kernel), ?_,
    List.map_eq_nil_iff.mp hsecond.entries⟩
  obtain ⟨name, hparse, -, passed, hcall, hpassed⟩ := hfirst.call
  obtain rfl : (⟨["ops"], "f"⟩ : Cpp.QualifiedName) = name := Except.ok.inj hparse
  rw [hcall]
  rcases hpassed with - | ⟨hpointer, - | ⟨hcontext, - | ⟨hbuffer, - | ⟨hword, - | -⟩⟩⟩⟩
  rw [hpointer.scalar rfl rfl, hcontext.context.mpr rfl, hbuffer.view.mpr rfl,
    hword.scalar rfl rfl]
  decide +kernel

end Generator

end KernelBridge
