import KernelBridge.Proofs.Cpp.QualifiedName
import KernelBridge.Proofs.Wrapper.Layout
import KernelBridge.Proofs.Wrapper.Scope
import KernelBridge.Wrapper.Outline

/-!
# Statements read back

Every statement of a body is one line of text, and its text shows what it is. This holds
because all names in it are identifiers: none of them holds a blank, a comma, a parenthesis or
a line feed that could make one line look like another.

## Main definitions

* `Plan.IsNamed` — all names in a plan are identifiers
* `Line.AreEntries` — texts that can stand as entries of one list
* `Line.IsOther` — what keeps a statement's line apart from calls and views
* `Statement.line` — what the line of a statement is read as

## Main results

* `Plan.isNamed` — the plans of accepted signatures
* `Line.read_function`, `Line.lineFeed_not_mem_function` — a name with its parameters is read
  apart, and is one line
* `Plan.isRead_body` — the statements of a body are read as what they are
-/

namespace KernelBridge

open Layout (Step contents indented rendered depthAfter)

/-! ### Names -/

/-- An identifier stands in one line. -/
theorem lineFeed_not_mem {name : String} (h : Cpp.isIdentifier name = true) :
    '\n' ∉ name.toList :=
  Cpp.not_mem_of_isIdentifier h (by decide)

/-- All names in the plan are identifiers. -/
structure Plan.IsNamed (plan : Plan) : Prop where
  namespaces : ∀ name ∈ plan.namespaces, Cpp.isIdentifier name = true
  simple : Cpp.isIdentifier plan.simpleName = true
  parameters : ∀ parameter ∈ plan.parameters, Cpp.isIdentifier parameter.name = true

namespace Plan

section Accepted

variable {backend : Backend} {signature : Signature} {plan : Plan}

theorem isNamed (accepted : ofSignature backend signature = .ok plan) : plan.IsNamed := by
  have hpath := Cpp.QualifiedName.isIdentifier_of_parse (parse_qualifiedName accepted).2
  refine ⟨fun name hname => hpath name (List.mem_append_left _ hname),
    hpath plan.simpleName (List.mem_append_right _ List.mem_cons_self), ?_⟩
  rw [parameters_eq accepted]
  intro parameter hparameter
  obtain ⟨argument, -, rfl⟩ := List.mem_map.mp hparameter
  exact Cpp.isIdentifier_identifier argument.name

end Accepted

end Plan

namespace Parameter

/-- The characters of which parameters are made up: those of identifiers, and those between
a type and a name. -/
def isWritten (c : Char) : Bool := Cpp.isNext c || [' ', '*', ':', '&'].contains c

variable {parameter : Parameter}

theorem all_isWritten_cName (type : ScalarType) : type.cName.toList.all isWritten = true := by
  -- Rewritten to the list of its characters, a literal need not be decoded from its bytes.
  cases type <;>
  · unfold ScalarType.cName
    rw [String.toList_ofList]
    decide

theorem not_mem_cName {c : Char} (h : isWritten c = false) (type : ScalarType) :
    c ∉ type.cName.toList := by
  intro hmem
  rw [List.all_eq_true.mp (all_isWritten_cName type) c hmem] at h
  cases h

theorem all_isWritten_cPrefix (type : ScalarType) :
    type.cPrefix.toList.all isWritten = true := by
  have hname := all_isWritten_cName type
  unfold ScalarType.cPrefix
  split
  · exact hname
  · rw [String.toList_append, List.all_append, hname, Bool.true_and]
    decide

theorem all_isWritten_of_isIdentifier {name : String} (h : Cpp.isIdentifier name = true) :
    name.toList.all isWritten = true := by
  rw [List.all_eq_true]
  intro c hc
  rw [isWritten, Cpp.isNext_of_mem h hc, Bool.true_or]

variable (h : Cpp.isIdentifier parameter.name = true)

include h

theorem all_isWritten_wrapperText : parameter.wrapperText.toList.all isWritten = true := by
  have hname := all_isWritten_of_isIdentifier h
  unfold wrapperText
  cases parameter.kind with
  | scalar =>
    change (parameter.type.cPrefix ++ parameter.name).toList.all isWritten = true
    rw [String.toList_append, List.all_append, hname, all_isWritten_cPrefix, Bool.and_true]
  | buffer =>
    change ("at::Tensor &" ++ parameter.name).toList.all isWritten = true
    rw [String.toList_append, List.all_append, hname, Bool.and_true, String.toList_ofList]
    decide

theorem all_isWritten_kernelText : parameter.kernelText.toList.all isWritten = true := by
  have hname := all_isWritten_of_isIdentifier h
  unfold kernelText
  split
  · rw [String.toList_append, List.all_append, hname, Bool.and_true, String.toList_ofList]
    decide
  · split
    · rw [String.toList_append, List.all_append, hname, Bool.and_true, String.toList_ofList]
      decide
    · exact all_isWritten_wrapperText h

theorem all_isWritten_viewName : parameter.viewName.toList.all isWritten = true := by
  rw [viewName, String.toList_append, List.all_append, all_isWritten_of_isIdentifier h,
    Bool.true_and]
  decide

theorem all_isWritten_callText : parameter.callText.toList.all isWritten = true := by
  unfold callText
  split
  · decide
  · split
    · exact all_isWritten_viewName h
    · exact all_isWritten_of_isIdentifier h

end Parameter

/-! ### Pieces of a line -/

section Between

variable {front back : String} {line inner : List Char}

theorem between_eq_some_iff :
    between front back line = some inner ↔ line = front.toList ++ (inner ++ back.toList) := by
  simp only [between, Option.bind_eq_some_iff, List.dropPrefix?_eq_some_iff,
    List.dropSuffix?_eq_some_iff, beq_iff_eq]
  constructor
  · rintro ⟨rest, ⟨_, rfl, rfl⟩, _, rfl, rfl⟩
    rfl
  · rintro rfl
    exact ⟨_, ⟨_, rfl, rfl⟩, _, rfl, rfl⟩

theorem between_append (front back : String) (inner : List Char) :
    between front back (front.toList ++ (inner ++ back.toList)) = some inner :=
  between_eq_some_iff.mpr rfl

theorem between_eq_none (h : ¬ front.toList <+: line) : between front back line = none := by
  refine Option.eq_none_iff_forall_ne_some.mpr fun inner hinner => h ?_
  rw [between_eq_some_iff.mp hinner]
  exact List.prefix_append _ _

end Between

namespace Line

variable {name : String} {texts : List String}

/-- The name of a view is read between the blanks around it. -/
theorem readView_append {type view : String} (htype : '>' ∉ type.toList)
    (hview : ' ' ∉ view.toList) (value : String) :
    readView (type ++ "> " ++ view ++ " = " ++ value).toList = view := by
  have hbehind : ∀ c ∈ type.toList, (c != '>') = true := Layout.forall_ne_of_not_mem htype
  have hblank : ∀ c ∈ view.toList, (c != ' ') = true := Layout.forall_ne_of_not_mem hview
  have hpieces : (type ++ "> " ++ view ++ " = " ++ value).toList =
      type.toList ++ '>' :: ' ' :: (view.toList ++ ' ' :: ("= ".toList ++ value.toList)) := by
    simp
  simp [readView, hpieces, List.dropWhile_append_of_pos hbehind,
    List.takeWhile_append_of_pos hblank]

theorem mem_of_mem_intercalate {c : Char} {separator : List Char} {pieces : List (List Char)}
    (h : c ∈ separator.intercalate pieces) : c ∈ separator ∨ ∃ piece ∈ pieces, c ∈ piece := by
  induction pieces with
  | nil => simp at h
  | cons piece rest ih =>
    cases rest with
    | nil => exact .inr ⟨piece, List.mem_cons_self, by simpa using h⟩
    | cons next rest =>
      rw [List.intercalate_cons_cons, List.mem_append, List.mem_append] at h
      rcases h with (hpiece | hseparator) | hrest
      · exact .inr ⟨piece, List.mem_cons_self, hpiece⟩
      · exact .inl hseparator
      · obtain hseparator | ⟨other, hother, hmem⟩ := ih hrest
        · exact .inl hseparator
        · exact .inr ⟨other, List.mem_cons_of_mem _ hother, hmem⟩

/-- The texts can stand as entries of one list. -/
def AreEntries (texts : List String) : Prop :=
  ∀ text ∈ texts, text ≠ "" ∧ text.toList.all Parameter.isWritten = true

theorem AreEntries.not_mem (h : AreEntries texts) {c : Char} (hc : Parameter.isWritten c = false)
    (hcomma : c ≠ ',') : c ∉ (", ".intercalate texts).toList := by
  intro hmem
  rw [String.toList_intercalate, show ", ".toList = [',', ' '] from rfl] at hmem
  obtain hseparator | ⟨piece, hpiece, hmem⟩ := mem_of_mem_intercalate hmem
  · rcases List.mem_cons.mp hseparator with rfl | hblank
    · exact hcomma rfl
    · rw [List.mem_singleton.mp hblank] at hc
      revert hc
      decide
  · obtain ⟨text, htext, rfl⟩ := List.mem_map.mp hpiece
    rw [List.all_eq_true.mp (h text htext).2 c hmem] at hc
    cases hc

theorem readEntries_intercalate (h : AreEntries texts) :
    readEntries (", ".intercalate texts).toList = texts := by
  cases texts with
  | nil => rfl
  | cons text rest =>
    have hcomma : ∀ piece ∈ (text :: rest).map String.toList, ',' ∉ piece := by
      intro piece hpiece hmem
      obtain ⟨other, hother, rfl⟩ := List.mem_map.mp hpiece
      have hwritten := List.all_eq_true.mp (h other hother).2 ',' hmem
      revert hwritten
      decide
    have hsome : (", ".intercalate (text :: rest)).toList ≠ [] := by
      have hfirst := (h text List.mem_cons_self).1
      rw [String.toList_intercalate, List.map_cons]
      cases rest <;> simp [hfirst]
    rw [readEntries, if_neg (by simpa using hsome), String.toList_intercalate,
      show ", ".toList = [',', ' '] from rfl, Text.cut_intercalate hcomma (by simp)]
    simp [Function.comp_def]

end Line

namespace Parameter

section Entries

variable {parameters : List Parameter}

theorem append_ne_empty_of_isIdentifier {name : String} (h : Cpp.isIdentifier name = true)
    (front : String) : front ++ name ≠ "" := by
  have hname := Cpp.ne_empty_of_isIdentifier h
  simp [hname]

variable (h : ∀ parameter ∈ parameters, Cpp.isIdentifier parameter.name = true)

include h

theorem areEntries_wrapperText : Line.AreEntries (parameters.map wrapperText) := by
  intro text htext
  obtain ⟨parameter, hparameter, rfl⟩ := List.mem_map.mp htext
  have hname := h parameter hparameter
  refine ⟨?_, all_isWritten_wrapperText hname⟩
  unfold wrapperText
  cases parameter.kind <;> exact append_ne_empty_of_isIdentifier hname _

theorem areEntries_kernelText : Line.AreEntries (parameters.map kernelText) := by
  intro text htext
  obtain ⟨parameter, hparameter, rfl⟩ := List.mem_map.mp htext
  have hname := h parameter hparameter
  refine ⟨?_, all_isWritten_kernelText hname⟩
  unfold kernelText
  split_ifs
  · exact append_ne_empty_of_isIdentifier hname _
  · exact append_ne_empty_of_isIdentifier hname _
  · unfold wrapperText
    cases parameter.kind <;> exact append_ne_empty_of_isIdentifier hname _

theorem areEntries_callText : Line.AreEntries (parameters.map callText) := by
  intro text htext
  obtain ⟨parameter, hparameter, rfl⟩ := List.mem_map.mp htext
  have hname := h parameter hparameter
  refine ⟨?_, all_isWritten_callText hname⟩
  unfold callText
  split_ifs
  · decide
  · simp [viewName]
  · exact Cpp.ne_empty_of_isIdentifier hname

end Entries

end Parameter

namespace Line

variable {name : String} {texts : List String}

/-- What stands in front of the parameters and in the parentheses is read apart. -/
theorem read_function (hname : Cpp.isIdentifier name = true) (h : AreEntries texts) :
    readName (name ++ "(" ++ ", ".intercalate texts).toList = name ∧
      readParameters (name ++ "(" ++ ", ".intercalate texts).toList = texts := by
  have hparenthesis : ∀ c ∈ name.toList, (c != '(') = true :=
    Layout.forall_ne_of_not_mem (Cpp.not_mem_of_isIdentifier hname (by decide))
  have htext : (name ++ "(" ++ ", ".intercalate texts).toList =
      name.toList ++ '(' :: (", ".intercalate texts).toList := by
    simp
  constructor
  · simp [readName, htext, List.takeWhile_append_of_pos hparenthesis]
  · rw [readParameters, htext, List.dropWhile_append_of_pos hparenthesis]
    exact readEntries_intercalate h

/-- A name with its parameters stands in one line. -/
theorem lineFeed_not_mem_function (hname : Cpp.isIdentifier name = true)
    (h : AreEntries texts) : '\n' ∉ (name ++ "(" ++ ", ".intercalate texts).toList := by
  have hentries := h.not_mem (show Parameter.isWritten '\n' = false by decide) (by decide)
  simp only [String.toList_append, List.mem_append, not_or]
  exact ⟨⟨lineFeed_not_mem hname, by decide⟩, hentries⟩

/-- The text is one line, which begins neither as a call nor as a view does. -/
structure IsOther (line : List Char) : Prop where
  notCall : ¬ ['i', 'n', 't', ' ', 'e', 'r', 'r'] <+: line
  notView : ¬ ['H', 'a', 'l', 'i', 'd', 'e', ':'] <+: line
  oneLine : '\n' ∉ line

instance (line : List Char) : Decidable (IsOther line) :=
  decidable_of_iff (_ ∧ _ ∧ _) ⟨fun h => ⟨h.1, h.2.1, h.2.2⟩, fun h => ⟨h.1, h.2, h.3⟩⟩

/-- Behind a margin, the first letters tell that a line declares, calls and wraps nothing. -/
theorem readPlain_margin {line : List Char} (h : IsOther line) :
    readPlain ("    ".toList ++ line) = none := by
  have hdeclaration : between "int " ");" ("    ".toList ++ line) = none := by
    refine between_eq_none ?_
    rw [String.toList_ofList, String.toList_ofList]
    simp
  have hcall : between "    int err = " ");" ("    ".toList ++ line) = none := by
    refine between_eq_none fun hstart => h.notCall ?_
    rw [String.toList_ofList, String.toList_ofList] at hstart
    have hline : ['i', 'n', 't', ' ', 'e', 'r', 'r'] ++ " = ".toList <+: line := by
      rw [String.toList_ofList]
      simpa using hstart
    exact (List.prefix_append _ _).trans hline
  have hview : between "    Halide::Runtime::Buffer<" ";" ("    ".toList ++ line) = none := by
    refine between_eq_none fun hstart => h.notView ?_
    rw [String.toList_ofList, String.toList_ofList] at hstart
    have hline : ['H', 'a', 'l', 'i', 'd', 'e', ':'] ++ ":Runtime::Buffer<".toList <+: line := by
      rw [String.toList_ofList]
      simpa using hstart
    exact (List.prefix_append _ _).trans hline
  rw [readPlain, hdeclaration, hcall, hview]
  rfl

/-- A line with a margin neither opens nor closes a block. -/
theorem read_blank_cons (rest : List Char) :
    read (' ' :: rest) = (readPlain (' ' :: rest)).getD other :=
  rfl

end Line

/-! ### Lines of the body -/

/-- What the line of a statement is read as. -/
def Statement.line : Statement → Line
  | callKernel kernel parameters => .calls kernel (parameters.map Parameter.callText)
  | declareView _ buffer => .wraps buffer.viewName
  | _ => .other

/-- The statement is one line, and behind a margin it is read as what it is. -/
def Statement.IsRead (statement : Statement) : Prop :=
  (Line.readPlain ("    ".toList ++ statement.text.toList)).getD .other = statement.line ∧
    '\n' ∉ statement.text.toList

namespace Statement

variable {parameter : Parameter}

/-- A statement whose line begins neither as a call nor as a view is read as neither. -/
theorem isRead_of_other {statement : Statement} (hother : statement.line = .other)
    (h : Line.IsOther statement.text.toList) : statement.IsRead :=
  ⟨by rw [Line.readPlain_margin h, hother]; rfl, h.oneLine⟩

theorem isRead_contextSetup (backend : Backend) :
    ∀ statement ∈ contents backend.contextSetup, statement.IsRead := by
  have hsetup : ∀ statement ∈ contents backend.contextSetup,
      statement.line = .other ∧ Line.IsOther statement.text.toList := by
    cases backend <;>
    · simp only [Backend.contextSetup, Layout.contents_line_cons, Layout.contents_blank_cons,
        Layout.contents_nil, List.forall_mem_cons]
      unfold text LocalType.text LocalType.typeName Expression.text Condition.expression
        Condition.complaint contextName contextRecord contextLocal
      simp only [String.join, List.map_cons, List.map_nil, List.foldl_cons, List.foldl_nil,
        String.toList_append]
      repeat rw [String.toList_ofList]
      decide
  exact fun statement hmem => isRead_of_other (hsetup statement hmem).1 (hsetup statement hmem).2

theorem isRead_comment {text : String} (h : '\n' ∉ text.toList) : (comment text).IsRead := by
  refine isRead_of_other rfl ?_
  change Line.IsOther ("// " ++ text).toList
  rw [String.toList_append, String.toList_ofList]
  exact ⟨by simp, by simp, by simp [h]⟩

theorem isRead_flushCache (backend : Backend) : (flushCache backend.flushValue).IsRead := by
  refine isRead_of_other rfl ?_
  unfold Statement.text Backend.flushValue cacheCleanup
  cases backend <;>
  · unfold Expression.text
    simp only [String.toList_append]
    repeat rw [String.toList_ofList]
    decide

theorem isRead_kernelSucceeded : (assertThat .kernelSucceeded).IsRead := by
  refine isRead_of_other rfl ?_
  unfold Statement.text Condition.expression Condition.complaint statusLocal
  simp only [String.toList_append]
  repeat rw [String.toList_ofList]
  decide

theorem isRead_returnZero : returnZero.IsRead := by
  refine isRead_of_other rfl ?_
  unfold Statement.text
  rw [String.toList_ofList]
  decide

theorem isRead_callKernel {kernel : String} {parameters : List Parameter}
    (hkernel : Cpp.isIdentifier kernel = true)
    (hparameters : ∀ parameter ∈ parameters, Cpp.isIdentifier parameter.name = true) :
    (callKernel kernel parameters).IsRead := by
  have hentries : Line.AreEntries (parameters.map Parameter.callText) :=
    Parameter.areEntries_callText hparameters
  have htext : "    ".toList ++ (callKernel kernel parameters).text.toList =
      "    int err = ".toList ++
        ((kernel ++ "(" ++ ", ".intercalate (parameters.map Parameter.callText)).toList
          ++ ");".toList) := by
    change "    ".toList ++ ("int " ++ "err" ++ " = " ++ kernel ++ "("
      ++ ", ".intercalate (parameters.map Parameter.callText) ++ ");").toList = _
    simp only [String.toList_append, List.append_assoc]
    repeat rw [String.toList_ofList]
    rfl
  constructor
  · have hread := Line.read_function hkernel hentries
    have hdeclaration (rest : List Char) :
        between "int " ");" ("    int err = ".toList ++ rest) = none := by
      refine between_eq_none ?_
      rw [String.toList_ofList, String.toList_ofList]
      simp
    rw [htext, Line.readPlain, hdeclaration, between_append "    int err = " ");"]
    exact congrArg₂ Line.calls hread.1 hread.2
  · have hline : '\n' ∉ "    ".toList ++ (callKernel kernel parameters).text.toList := by
      rw [htext, List.mem_append, List.mem_append, not_or, not_or]
      exact ⟨by decide, Line.lineFeed_not_mem_function hkernel hentries, by decide⟩
    exact fun hmem => hline (List.mem_append_right _ hmem)

section Buffer

variable (h : Cpp.isIdentifier parameter.name = true)

include h

theorem isRead_checkContiguous : (checkContiguous parameter).IsRead := by
  have hname := lineFeed_not_mem h
  refine isRead_of_other rfl ?_
  unfold Statement.text
  simp only [String.toList_append]
  repeat rw [String.toList_ofList]
  exact ⟨by simp, by simp, by simp [hname]⟩

theorem isRead_checkDevice : (checkDevice parameter).IsRead := by
  have hname := lineFeed_not_mem h
  refine isRead_of_other rfl ?_
  unfold Statement.text
  simp only [String.toList_append]
  repeat rw [String.toList_ofList]
  exact ⟨by simp, by simp, by simp [hname]⟩

theorem isRead_declareView (placement : Placement) :
    (declareView placement parameter).IsRead := by
  have hname := lineFeed_not_mem h
  constructor
  · have hblank : ' ' ∉ parameter.viewName.toList := by
      rw [Parameter.viewName, String.toList_append, List.mem_append, not_or]
      exact ⟨Cpp.not_mem_of_isIdentifier h (by decide), by decide⟩
    have hread := Line.readView_append (Parameter.not_mem_cName (by decide) parameter.type)
      hblank (placement.viewText parameter)
    have htext : "    ".toList ++ (declareView placement parameter).text.toList =
        "    Halide::Runtime::Buffer<".toList ++
          ((parameter.type.cName ++ "> " ++ parameter.viewName ++ " = "
            ++ placement.viewText parameter).toList ++ ";".toList) := by
      change "    ".toList ++ ("Halide::Runtime::Buffer<" ++ parameter.type.cName ++ "> "
        ++ parameter.viewName ++ " = " ++ placement.viewText parameter ++ ";").toList = _
      simp only [String.toList_append, List.append_assoc]
      repeat rw [String.toList_ofList]
      rfl
    have hdeclaration (rest : List Char) :
        between "int " ");" ("    Halide::Runtime::Buffer<".toList ++ rest) = none := by
      refine between_eq_none ?_
      rw [String.toList_ofList, String.toList_ofList]
      simp
    have hcall (rest : List Char) :
        between "    int err = " ");" ("    Halide::Runtime::Buffer<".toList ++ rest) = none := by
      refine between_eq_none ?_
      rw [String.toList_ofList, String.toList_ofList]
      simp
    rw [htext, Line.readPlain, hdeclaration, hcall, between_append "    Halide::Runtime::Buffer<"]
    exact congrArg Line.wraps hread
  · have htype : '\n' ∉ parameter.type.cName.toList :=
      Parameter.not_mem_cName (by decide) parameter.type
    have hconstructor : '\n' ∉ placement.constructor.toList := by
      cases placement <;>
      · unfold Placement.constructor
        rw [String.toList_ofList]
        decide
    change '\n' ∉ ("Halide::Runtime::Buffer<" ++ parameter.type.cName ++ "> "
      ++ (parameter.name ++ "_buffer") ++ " = " ++ (placement.constructor ++ "<"
      ++ parameter.type.cName ++ ">(" ++ parameter.name ++ ")") ++ ";").toList
    simp [hname, htype, hconstructor]

theorem isRead_deviceCurrent : (assertThat (.deviceCurrent parameter)).IsRead := by
  have hname := lineFeed_not_mem h
  refine isRead_of_other rfl ?_
  unfold Statement.text Condition.expression Condition.complaint Parameter.viewName
  simp only [String.toList_append]
  repeat rw [String.toList_ofList]
  exact ⟨by simp, by simp, by simp [hname]⟩

theorem isRead_detach : (detach parameter).IsRead := by
  have hname := lineFeed_not_mem h
  have hblank : ' ' ∉ parameter.name.toList := Cpp.not_mem_of_isIdentifier h (by decide)
  have hcolon : ':' ∉ parameter.name.toList := Cpp.not_mem_of_isIdentifier h (by decide)
  refine isRead_of_other rfl ?_
  unfold Statement.text Parameter.viewName
  simp only [String.toList_append]
  repeat rw [String.toList_ofList]
  refine ⟨fun hstart => ?_, fun hstart => ?_, by simp [hname]⟩
  · have hmem := hstart.subset (show ' ' ∈ _ by decide)
    simp [hblank] at hmem
  · have hmem := hstart.subset (show ':' ∈ _ by decide)
    simp [hcolon] at hmem

end Buffer

end Statement

/-! ### Parts of the body -/

namespace Backend

variable {backend : Backend} {buffers : List Parameter}

theorem isLevel_contextSetup : Layout.IsLevel backend.contextSetup := by
  cases backend <;> simp [contextSetup]

theorem isLevel_residencyChecks : Layout.IsLevel (buffers.flatMap backend.residencyCheck) :=
  Layout.isLevel_flatMap fun buffer _ => by cases backend <;> simp [residencyCheck]

theorem isLevel_postChecks : Layout.IsLevel (backend.postChecks buffers) := by
  cases backend <;> simp [postChecks]
  split <;> simp [Layout.isLevel_flatMap]

section Named

variable (named : ∀ buffer ∈ buffers, Cpp.isIdentifier buffer.name = true)

include named

theorem isRead_residencyChecks :
    ∀ statement ∈ contents (buffers.flatMap backend.residencyCheck), statement.IsRead := by
  rw [Layout.contents_flatMap, List.forall_mem_flatMap]
  intro buffer hbuffer
  cases backend with
  | cuda =>
    exact List.forall_mem_singleton.mpr (Statement.isRead_checkDevice (named buffer hbuffer))
  | cpu | metal => simp [residencyCheck]

theorem isRead_postChecks :
    ∀ statement ∈ contents (backend.postChecks buffers), statement.IsRead := by
  rw [Plan.contents_postChecks]
  split
  · simp only [List.forall_mem_cons, List.forall_mem_flatMap, Plan.postCheck]
    refine ⟨Statement.isRead_comment (by rw [String.toList_ofList]; decide), fun buffer hbuffer =>
      ⟨Statement.isRead_deviceCurrent (named buffer hbuffer),
        Statement.isRead_detach (named buffer hbuffer), by simp⟩⟩
  · simp

end Named

end Backend

section Body

variable {plan : Plan} {backend : Backend} {flushCache : Bool}

/-- Every statement of a body is read as what it is, as its names are identifiers. -/
theorem Plan.isRead_body (named : plan.IsNamed) :
    ∀ statement ∈ contents (plan.body backend flushCache), statement.IsRead := by
  have hbuffers : ∀ buffer ∈ plan.buffers, Cpp.isIdentifier buffer.name = true := fun buffer h =>
    named.parameters buffer (List.mem_of_mem_filter h)
  have hcall : ∀ statement ∈ contents plan.call, statement.IsRead := by
    simp only [call, Layout.contents_line_cons, Layout.contents_blank_cons, Layout.contents_nil,
      List.forall_mem_cons]
    exact ⟨Statement.isRead_comment (by rw [String.toList_ofList]; decide),
      Statement.isRead_callKernel named.simple named.parameters,
      Statement.isRead_kernelSucceeded, by simp⟩
  have hchecks : ∀ statement ∈ contents (plan.checks backend), statement.IsRead := by
    simp only [checks, List.cons_append, Layout.contents_append, Layout.contents_line_cons,
      Layout.contents_map_line, Layout.contents_blank_cons, Layout.contents_nil, List.append_nil,
      List.forall_mem_cons, List.forall_mem_append, List.forall_mem_map]
    exact ⟨Statement.isRead_comment (by rw [String.toList_ofList]; decide),
      fun buffer hbuffer => Statement.isRead_checkContiguous (hbuffers buffer hbuffer),
      Backend.isRead_residencyChecks hbuffers⟩
  have hviews : ∀ statement ∈ contents (plan.views backend), statement.IsRead := by
    simp only [contents_views, List.forall_mem_cons, List.forall_mem_map]
    exact ⟨Statement.isRead_comment (by rw [String.toList_ofList]; decide), fun buffer hbuffer =>
      Statement.isRead_declareView (hbuffers buffer hbuffer) _⟩
  have hflush : ∀ statement ∈ contents (flush backend flushCache), statement.IsRead := by
    unfold flush
    split
    · simp only [Layout.contents_line_cons, Layout.contents_nil, List.forall_mem_cons]
      exact ⟨Statement.isRead_comment (by rw [String.toList_ofList]; decide),
        Statement.isRead_flushCache backend, by simp⟩
    · simp
  simp only [body, Layout.contents_append, List.forall_mem_append]
  refine ⟨⟨⟨⟨⟨Statement.isRead_contextSetup backend, ?_⟩, hcall⟩,
    Backend.isRead_postChecks hbuffers⟩, hflush⟩, ?_⟩
  · split
    · simp
    · simp only [Layout.contents_append, List.forall_mem_append]
      exact ⟨hchecks, hviews⟩
  · simpa using Statement.isRead_returnZero

/-- A body keeps its depth. -/
theorem Plan.isLevel_body : Layout.IsLevel (plan.body backend flushCache) := by
  have hchecks : Layout.IsLevel (plan.checks backend) := by
    simp [checks, Layout.isLevel_map_line, Backend.isLevel_residencyChecks]
  have hviews : Layout.IsLevel (plan.views backend) := by
    simp [views, Layout.isLevel_map_line]
  have hflush : Layout.IsLevel (flush backend flushCache) := by
    unfold flush
    split <;> simp
  rw [body]
  split <;> simp [Backend.isLevel_contextSetup, Backend.isLevel_postChecks, hchecks, hviews,
    hflush, call]

end Body

end KernelBridge
