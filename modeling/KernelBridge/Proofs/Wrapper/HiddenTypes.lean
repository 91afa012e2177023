import Mathlib.Data.List.TakeWhile
import Mathlib.Tactic.MkIffOfInductiveProp
import KernelBridge.Proofs.Wrapper.Reading

/-!
# Types that parameters hide

C++ does not reserve the names of integers with a fixed width, so an argument may have one. A
parameter that is called `int32_t` hides the type from the parameters behind it and from the body
of its function. Generation keeps parameters from the names that the context setup refers to, but
not from those of the types that parameters and views are written with.

## Main definitions

* `Line.readType`, `Line.readElement` — the types in the texts of parameters and views
* `SourceLine.KeepsTypes` — no parameter has the name of the type of a later one
* `Plan.KeepsTypes` — no parameter hides a type that is written behind it

## Main results

* `Plan.keepsTypes_iff_of_accepted` — the accepted signatures whose parameters hide no type
* `Plan.keepsTypes_of_forall_not_mem` — only names of integers can hide a type
-/

namespace KernelBridge

open Layout (contents)

/-! ### Types in a text -/

namespace Line

/-- The first word of a parameter: its type, or what its type begins with. -/
def readType (parameter : String) : String :=
  String.ofList (parameter.toList.takeWhile (· != ' '))

/-- What stands in the first angle brackets of a statement. -/
def readElement (statement : String) : String :=
  String.ofList (((statement.toList.dropWhile (· != '<')).drop 1).takeWhile (· != '>'))

theorem readType_append {front : String} (h : ' ' ∈ front.toList) (rest : String) :
    readType (front ++ rest) = readType front := by
  have hstop : (front.toList.takeWhile (· != ' ')).length ≠ front.toList.length := by
    intro hlength
    have hall := List.takeWhile_eq_self_iff.mp
      ((List.takeWhile_prefix _).eq_of_length hlength) ' ' h
    simp at hall
  rw [readType, String.toList_append, List.takeWhile_append, if_neg hstop, readType]

theorem readElement_append {front word : String}
    (hfront : front.toList.dropWhile (· != '<') = ['<']) (hword : '>' ∉ word.toList)
    (rest : String) : readElement (front ++ (word ++ ("> " ++ rest))) = word := by
  have hinside : ∀ c ∈ word.toList, (c != '>') = true := Layout.forall_ne_of_not_mem hword
  simp [readElement, List.dropWhile_append, hfront, List.takeWhile_append_of_pos hinside]

end Line

/-- The names of types that C++ does not reserve. -/
def integerNames : List String := (ScalarType.all.map ScalarType.cName).filter Cpp.isIdentifier

theorem ScalarType.cName_mem_integerNames {type : ScalarType}
    (h : Cpp.isIdentifier type.cName = true) : type.cName ∈ integerNames := by
  have hall : type ∈ ScalarType.all := by cases type <;> decide
  exact List.mem_filter.mpr ⟨List.mem_map_of_mem hall, h⟩

example : integerNames = ["uint8_t", "uint16_t", "uint32_t", "uint64_t", "int8_t", "int16_t",
    "int32_t", "int64_t"] := by
  decide +kernel

/-- Before a name stands the type, or a reserved word. -/
theorem ScalarType.readType_cPrefix (type : ScalarType) :
    Line.readType type.cPrefix = type.cName ∨
      Cpp.isIdentifier (Line.readType type.cPrefix) = false ∧
        Cpp.isIdentifier type.cName = false := by
  cases type <;> decide +kernel

theorem Cpp.ne_of_isIdentifier {name other : String} (h : isIdentifier name = true)
    (hother : isIdentifier other = false) : name ≠ other := by
  rintro rfl
  rw [h] at hother
  cases hother

namespace Parameter

variable {parameter : Parameter} {name : String} (h : Cpp.isIdentifier name = true)

include h

/-- Among the parameters of a wrapper, only scalars show a type with the name of something. -/
theorem eq_readType_wrapperText_iff :
    name = Line.readType parameter.wrapperText ↔
      parameter.kind = .scalar ∧ name = parameter.type.cName := by
  unfold wrapperText
  cases parameter.kind with
  | buffer =>
    have hread : Line.readType ("at::Tensor &" ++ parameter.name) = "at::Tensor" :=
      Line.readType_append (by decide) _
    simpa [hread] using Cpp.ne_of_isIdentifier h (by decide)
  | scalar =>
    have hblank : ' ' ∈ parameter.type.cPrefix.toList := by cases parameter.type <;> decide
    change name = Line.readType (parameter.type.cPrefix ++ parameter.name) ↔ _
    rw [Line.readType_append hblank, eq_self, true_and]
    rcases parameter.type.readType_cPrefix with hread | ⟨hread, hname⟩
    · rw [hread]
    · exact iff_of_false (Cpp.ne_of_isIdentifier h hread) (Cpp.ne_of_isIdentifier h hname)

/-- The same among the parameters of a kernel. -/
theorem eq_readType_kernelText_iff :
    name = Line.readType parameter.kernelText ↔
      parameter.isContext = false ∧ parameter.kind = .scalar ∧ name = parameter.type.cName := by
  unfold kernelText
  split
  · next hcontext =>
    have hread : Line.readType ("void const *" ++ parameter.name) = "void" :=
      Line.readType_append (by decide) _
    simpa [hread, hcontext] using Cpp.ne_of_isIdentifier h (by decide)
  · next hcontext =>
    split
    · next hbuffer =>
      have hread : Line.readType ("struct halide_buffer_t *" ++ parameter.name) = "struct" :=
        Line.readType_append (by decide) _
      have hkind : parameter.kind = .buffer := by simpa [isBuffer] using hbuffer
      simpa [hread, hkind] using Cpp.ne_of_isIdentifier h (by decide)
    · rw [eq_readType_wrapperText_iff h, Bool.eq_false_iff, ne_eq, and_iff_right hcontext]

end Parameter

/-! ### Types in the lines of a file -/

/-- The parameters that a line lists: the name and the text of each. -/
def SourceLine.listed : SourceLine → List (String × String)
  | declaration _ parameters =>
    parameters.map fun parameter => (parameter.name, parameter.kernelText)
  | header _ parameters =>
    parameters.map fun parameter => (parameter.name, parameter.wrapperText)
  | _ => []

/-- No parameter in the line has the name of the type of a later one. -/
def SourceLine.KeepsTypes (line : SourceLine) : Prop :=
  line.listed.Pairwise fun earlier later => earlier.1 ≠ Line.readType later.2

instance (line : SourceLine) : Decidable line.KeepsTypes :=
  inferInstanceAs (Decidable (List.Pairwise _ _))

namespace Plan

/-- No parameter of a kernel or of its wrapper hides a type that is written behind it. -/
@[mk_iff]
structure KeepsTypes (plan : Plan) (backend : Backend) (flushCache : Bool) : Prop where
  declaration : ∀ line ∈ contents plan.declaration, line.KeepsTypes
  wrapper : ∀ line ∈ contents (plan.wrapper backend flushCache), line.KeepsTypes
  views : ∀ placement buffer,
    .declareView placement buffer ∈ contents (plan.body backend flushCache) →
      ∀ parameter ∈ plan.publicParameters,
        parameter.name ≠ Line.readElement (Statement.declareView placement buffer).text

variable {plan : Plan} {backend : Backend} {flushCache : Bool}

/-- There is one view in a body for each buffer. -/
theorem declareView_mem_body {placement : Placement} {buffer : Parameter} :
    .declareView placement buffer ∈ contents (plan.body backend flushCache) ↔
      placement = backend.placement ∧ buffer ∈ plan.buffers := by
  rw [mem_body_iff rfl]
  simp [eq_comm, and_comm]

/-- A view is written with the type of its buffer's elements. -/
theorem readElement_declareView (placement : Placement) (buffer : Parameter) :
    Line.readElement (Statement.declareView placement buffer).text = buffer.type.cName := by
  have hclosing : '>' ∉ buffer.type.cName.toList := Parameter.not_mem_cName (by decide) _
  have hfront : "Halide::Runtime::Buffer<".toList.dropWhile (· != '<') = ['<'] := by
    rw [String.toList_ofList]
    decide
  change Line.readElement ("Halide::Runtime::Buffer<" ++ buffer.type.cName ++ "> "
    ++ buffer.viewName ++ " = " ++ placement.viewText buffer ++ ";") = _
  simp only [String.append_assoc]
  rw [Line.readElement_append hfront hclosing]

/-! ### Signatures whose types are kept -/

section Accepted

variable {signature : Signature}

theorem keepsTypes_declaration_iff (accepted : ofSignature backend signature = .ok plan) :
    (∀ line ∈ contents plan.declaration, line.KeepsTypes) ↔
      signature.arguments.Pairwise fun earlier later =>
        later.isContext = false → later.kind = .scalar →
          Cpp.identifier earlier.name ≠ later.type.cName := by
  have hlisted : (∀ line ∈ contents plan.declaration, line.KeepsTypes) ↔
      plan.parameters.Pairwise fun earlier later =>
        earlier.name ≠ Line.readType later.kernelText := by
    simp [declaration, SourceLine.KeepsTypes, SourceLine.listed, List.pairwise_map]
  rw [hlisted, parameters_eq accepted, List.pairwise_map]
  refine List.Pairwise.iff fun earlier later => ?_
  have hread := @Parameter.eq_readType_kernelText_iff (.ofArgument later) _
    (Cpp.isIdentifier_identifier earlier.name)
  exact hread.not.trans (by simp [Parameter.ofArgument])

/-- Only the header of a wrapper lists parameters. -/
theorem keepsTypes_wrapper_iff (accepted : ofSignature backend signature = .ok plan) :
    (∀ line ∈ contents (plan.wrapper backend flushCache), line.KeepsTypes) ↔
      signature.publicArguments.Pairwise fun earlier later =>
        later.kind = .scalar → Cpp.identifier earlier.name ≠ later.type.cName := by
  have hlisted : (∀ line ∈ contents (plan.wrapper backend flushCache), line.KeepsTypes) ↔
      plan.publicParameters.Pairwise fun earlier later =>
        earlier.name ≠ Line.readType later.wrapperText := by
    simp [contents_wrapper, SourceLine.KeepsTypes, SourceLine.listed, List.pairwise_map, or_imp,
      forall_and]
  rw [hlisted, publicParameters_eq accepted, List.pairwise_map]
  refine List.Pairwise.iff fun earlier later => ?_
  have hread := @Parameter.eq_readType_wrapperText_iff (.ofArgument later) _
    (Cpp.isIdentifier_identifier earlier.name)
  exact hread.not.trans (by simp [Parameter.ofArgument])

theorem keepsTypes_views_iff (accepted : ofSignature backend signature = .ok plan) :
    (∀ placement buffer,
      .declareView placement buffer ∈ contents (plan.body backend flushCache) →
        ∀ parameter ∈ plan.publicParameters,
          parameter.name ≠ Line.readElement (Statement.declareView placement buffer).text) ↔
      ∀ argument ∈ signature.publicArguments, ∀ buffer ∈ signature.buffers,
        Cpp.identifier argument.name ≠ buffer.type.cName := by
  simp only [declareView_mem_body, readElement_declareView, publicParameters_eq accepted,
    buffers_eq accepted, List.forall_mem_map]
  constructor
  · intro hviews argument hargument buffer hbuffer
    exact hviews _ _ ⟨rfl, List.mem_map_of_mem hbuffer⟩ argument hargument
  · rintro hviews _ _ ⟨-, hview⟩ argument hargument
    obtain ⟨buffer, hbuffer, rfl⟩ := List.mem_map.mp hview
    exact hviews argument hargument buffer hbuffer

/-- **What hides a type.** The parameters of an accepted signature hide no type exactly if no
argument has the name of the type of a later scalar, and none but the user context has that of
the type of a buffer, wherever the buffer stands. If the header of the wrapper hides a type, then
so does the declaration of the kernel. -/
theorem keepsTypes_iff_of_accepted (accepted : ofSignature backend signature = .ok plan)
    (flushCache : Bool) :
    plan.KeepsTypes backend flushCache ↔
      (signature.arguments.Pairwise fun earlier later =>
        later.isContext = false → later.kind = .scalar →
          Cpp.identifier earlier.name ≠ later.type.cName) ∧
      ∀ argument ∈ signature.publicArguments, ∀ buffer ∈ signature.buffers,
        Cpp.identifier argument.name ≠ buffer.type.cName := by
  rw [keepsTypes_iff, keepsTypes_declaration_iff accepted, keepsTypes_wrapper_iff accepted,
    keepsTypes_views_iff accepted]
  refine and_congr_right fun hdeclaration => and_iff_right ?_
  refine (hdeclaration.sublist List.filter_sublist).imp_of_mem ?_
  intro earlier later _ hlater hearlier
  exact hearlier (by simpa using (List.mem_filter.mp hlater).2)

/-- Two integers, the second of which has the name of both their types. -/
theorem keepsTypes_of_last_argument :
    ∃ plan, ofSignature .cpu ⟨"f", [.scalar "n" .i32, .scalar "int32_t" .i32]⟩ = .ok plan ∧
      plan.KeepsTypes .cpu false := by
  have accepted :
      ofSignature .cpu ⟨"f", [.scalar "n" .i32, .scalar "int32_t" .i32]⟩ = .ok _ := rfl
  exact ⟨_, accepted, (keepsTypes_iff_of_accepted accepted false).mpr (by decide)⟩

/-- The same integers in the other order, and one that has the name of a buffer's type. -/
theorem not_keepsTypes_of_first_argument :
    (∃ plan, ((⟨.host, {}⟩ : Generator).plan
        [⟨"f", [.scalar "int32_t" .i32, .scalar "n" .i32]⟩]).result = .ok [plan] ∧
      ¬ plan.KeepsTypes .cpu false) ∧
    ∃ plan, ((⟨.host, {}⟩ : Generator).plan
        [⟨"f", [.buffer "x" .i32 1, .scalar "int32_t" .f32]⟩]).result = .ok [plan] ∧
      ¬ plan.KeepsTypes .cpu false := by
  refine ⟨⟨_, rfl, fun keeps => ?_⟩, _, rfl, fun keeps => ?_⟩
  · exact absurd (keeps.declaration _ (List.mem_cons_of_mem _ List.mem_cons_self)) (by decide)
  · have hname := keeps.views _ _ (declareView_mem_body.mpr ⟨rfl, List.mem_cons_self⟩) _
      (List.mem_cons_of_mem _ List.mem_cons_self)
    rw [readElement_declareView] at hname
    exact hname (by decide)

/-- Arguments that are called as no integer type hide none. -/
theorem keepsTypes_of_forall_not_mem (accepted : ofSignature backend signature = .ok plan)
    (h : ∀ argument ∈ signature.arguments, Cpp.identifier argument.name ∉ integerNames) :
    plan.KeepsTypes backend flushCache := by
  have hne {argument : Argument} (hargument : argument ∈ signature.arguments)
      (type : ScalarType) : Cpp.identifier argument.name ≠ type.cName := by
    intro heq
    refine h argument hargument (heq ▸ ScalarType.cName_mem_integerNames ?_)
    rw [← heq, Cpp.isIdentifier_identifier]
  have hpublic {argument : Argument} (hargument : argument ∈ signature.publicArguments) :
      argument ∈ signature.arguments := List.mem_of_mem_filter hargument
  refine ⟨(keepsTypes_declaration_iff accepted).mpr ?_, (keepsTypes_wrapper_iff accepted).mpr ?_,
    (keepsTypes_views_iff accepted).mpr ?_⟩
  · exact List.pairwise_of_forall_mem_list fun earlier hearlier later _ _ _ =>
      hne hearlier later.type
  · exact List.pairwise_of_forall_mem_list fun earlier hearlier later _ _ =>
      hne (hpublic hearlier) later.type
  · exact fun argument hargument buffer _ => hne (hpublic hargument) buffer.type

end Accepted

end Plan

end KernelBridge
