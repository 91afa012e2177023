import KernelBridge.CommandLine.Directory
import KernelBridge.Proofs.CommandLine.Arguments
import KernelBridge.Proofs.Wrapper.Acceptance

/-!
# What runs leave

A run goes through the same stages whether it writes the source or only checks that it could:
it reads the target, then the document, and plans the wrappers. Only when nothing is left that
can fail but the writing itself does a run write, and then once.

## Main definitions

* `Surroundings.Prepares` — the stages before anything is done, with what comes out of them
* `Surroundings.Takes` — the source can be written to where the run is asked to write it
* `Surroundings.writable` — the same surroundings with nothing that keeps a run from writing

## Main results

* `Surroundings.deed_eq_ok_iff` — a run does something iff all stages succeed
* `Surroundings.run_of_prepares`, `Surroundings.run_of_not_prepares` — what a run leaves
* `run_check_and_delivery` — checking runs, failing runs and runs that write
* `Directory.run_leaves_nothing` — the directory after checking and failing runs
-/

namespace KernelBridge.CommandLine

open FirstFault

/-! ### The stages of a run -/

/-- What the run does with plans that were made. -/
def Arguments.intent (arguments : Arguments) (generator : Generator) (plans : List Plan) : Deed :=
  if arguments.checkOnly then .confirm (Arguments.confirmation plans.length generator.target)
  else arguments.place (generator.source plans)

/-- Checking and writing ask for the same plans. -/
theorem Arguments.deedFor_eq_ok_iff {arguments : Arguments} {generator : Generator}
    {set : SignatureSet} {deed : Deed} :
    arguments.deedFor generator set = .ok deed ↔
      ∃ plans, (generator.plan set.functions).result = .ok plans ∧
        arguments.intent generator plans = deed := by
  unfold deedFor intent
  by_cases hcheck : arguments.checkOnly = true
  · simp [hcheck, bind_eq_ok_iff, pure, Except.pure]
  · simp [hcheck, bind_eq_ok_iff, pure, Except.pure, Generator.generate_eq_ok_iff]

/-- The stages before anything is done: the target and the document can be read, and the
signatures have plans under the options of the run. -/
structure Surroundings.Prepares (surroundings : Surroundings) (arguments : Arguments)
    (generator : Generator) (set : SignatureSet) (plans : List Plan) : Prop where
  target : Target.parse arguments.target = .ok generator.target
  options : generator.options =
    arguments.options (surroundings.environment GeneratorOptions.flushVariable)
  document : ∃ bytes text, surroundings.contents arguments.source = .ok bytes ∧
    textOfBytes bytes = .ok text ∧ SignatureSet.parse text = .ok set
  plans : (generator.plan set.functions).result = .ok plans

namespace Surroundings

variable {surroundings : Surroundings} {arguments : Arguments} {generator : Generator}
  {set : SignatureSet} {plans : List Plan}

/-- A run does something iff all of its stages succeed. -/
theorem deed_eq_ok_iff {deed : Deed} : surroundings.deed arguments = .ok deed ↔
    ∃ generator set plans, surroundings.Prepares arguments generator set plans ∧
      arguments.intent generator plans = deed := by
  have htext {text : String} :
      (surroundings.contents arguments.source).bind textOfBytes = .ok text ↔
        ∃ bytes, surroundings.contents arguments.source = .ok bytes ∧
          textOfBytes bytes = .ok text :=
    bind_eq_ok_iff
  simp only [Surroundings.deed, Arguments.deed, bind_eq_ok_iff, Arguments.parseTarget,
    Arguments.signatureText, Arguments.parseSignatures, mapError_eq_ok_iff, htext,
    Arguments.deedFor_eq_ok_iff]
  constructor
  · rintro ⟨target, htarget, text, ⟨bytes, hbytes, hbody⟩, set, hset, plans, hplans, hdeed⟩
    exact ⟨⟨target, _⟩, set, plans, ⟨htarget, rfl, ⟨bytes, text, hbytes, hbody, hset⟩, hplans⟩,
      hdeed⟩
  · rintro ⟨⟨target, _⟩, set, plans, ⟨htarget, rfl, ⟨bytes, text, hbytes, hbody, hset⟩, hplans⟩,
      hdeed⟩
    exact ⟨target, htarget, text, ⟨bytes, hbytes, hbody⟩, set, hset, plans, hplans, hdeed⟩

/-- The stages find the same whether the run is to write or not, and whether it could. -/
theorem prepares_congr {other : Surroundings}
    (henvironment : other.environment = surroundings.environment)
    (hinput : other.contents = surroundings.contents) (checkOnly : Bool) :
    other.Prepares { arguments with checkOnly := checkOnly } generator set plans ↔
      surroundings.Prepares arguments generator set plans := by
  constructor
  · rintro ⟨htarget, hoptions, hdocument, hplans⟩
    rw [henvironment] at hoptions
    rw [hinput] at hdocument
    exact ⟨htarget, hoptions, hdocument, hplans⟩
  · rintro ⟨htarget, hoptions, hdocument, hplans⟩
    rw [← henvironment] at hoptions
    rw [← hinput] at hdocument
    exact ⟨htarget, hoptions, hdocument, hplans⟩

/-! ### What is left -/

/-- The source can be written to where the run is asked to write it. -/
def Takes (surroundings : Surroundings) (arguments : Arguments) : Prop :=
  match arguments.output with
  | some path => surroundings.writeFault path = none
  | none => surroundings.printFault = none

/-- The same surroundings with nothing that keeps a run from writing. -/
def writable (surroundings : Surroundings) : Surroundings :=
  { surroundings with writeFault := fun _ => none, printFault := none }

theorem takes_writable (surroundings : Surroundings) (arguments : Arguments) :
    surroundings.writable.Takes arguments := by
  unfold Takes
  cases arguments.output <;> rfl

end Surroundings

/-- Nothing was printed and nothing was written. -/
structure Outcome.IsQuiet (outcome : Outcome) : Prop where
  output : outcome.output = ""
  written : outcome.written = none

/-- The source was delivered to where the run was asked to write it. -/
structure Outcome.Delivers (outcome : Outcome) (arguments : Arguments) (source : String) :
    Prop where
  toFile : ∀ path, arguments.output = some path →
    outcome.written = some (path, source) ∧ outcome.output = ""
  toOutput : arguments.output = none → outcome.output = source ∧ outcome.written = none

namespace Surroundings

variable {surroundings : Surroundings} {arguments : Arguments} {generator : Generator}
  {set : SignatureSet} {plans : List Plan}

theorem complete_place_of_takes (h : surroundings.Takes arguments) (source : String) :
    (surroundings.complete (arguments.place source)).exitCode = 0 ∧
      (surroundings.complete (arguments.place source)).Delivers arguments source := by
  unfold Takes at h
  cases houtput : arguments.output with
  | none =>
    rw [houtput] at h
    simp only [Arguments.place, houtput, complete, h]
    exact ⟨trivial, ⟨fun path hpath => (by cases houtput.symm.trans hpath), fun _ => ⟨rfl, rfl⟩⟩⟩
  | some path =>
    rw [houtput] at h
    simp only [Arguments.place, houtput, complete, h]
    refine ⟨trivial, ⟨fun other hother => ?_, fun hnone => (by cases houtput.symm.trans hnone)⟩⟩
    obtain rfl := Option.some.inj (houtput.symm.trans hother)
    exact ⟨rfl, rfl⟩

theorem complete_place_of_not_takes (h : ¬ surroundings.Takes arguments) (source : String) :
    (surroundings.complete (arguments.place source)).exitCode ≠ 0 ∧
      (surroundings.complete (arguments.place source)).IsQuiet := by
  unfold Takes at h
  cases houtput : arguments.output with
  | none =>
    rw [houtput] at h
    obtain ⟨fault, hfault⟩ := Option.ne_none_iff_exists'.mp h
    simp only [Arguments.place, houtput, complete, hfault]
    exact ⟨by simp, rfl, rfl⟩
  | some path =>
    rw [houtput] at h
    obtain ⟨fault, hfault⟩ := Option.ne_none_iff_exists'.mp h
    simp only [Arguments.place, houtput, complete, hfault]
    exact ⟨by simp, rfl, rfl⟩

section Prepared

variable (prepares : surroundings.Prepares arguments generator set plans)

include prepares

theorem run_of_prepares :
    surroundings.run arguments = surroundings.complete (arguments.intent generator plans) := by
  rw [Surroundings.run, deed_eq_ok_iff.mpr ⟨_, _, _, prepares, rfl⟩]

/-- A run that checks succeeds and writes nothing. -/
theorem run_of_checks (hcheck : arguments.checkOnly = true) :
    (surroundings.run arguments).exitCode = 0 ∧ (surroundings.run arguments).IsQuiet := by
  rw [run_of_prepares prepares, Arguments.intent, if_pos hcheck]
  exact ⟨rfl, rfl, rfl⟩

/-- A run that is not to check tries to deliver the source. -/
theorem run_of_writes (hcheck : arguments.checkOnly = false) :
    surroundings.run arguments =
      surroundings.complete (arguments.place (generator.source plans)) := by
  rw [run_of_prepares prepares, Arguments.intent, if_neg (by simp [hcheck])]

end Prepared

/-- A run with a stage that fails writes nothing. -/
theorem run_of_not_prepares
    (h : ¬ ∃ generator set plans, surroundings.Prepares arguments generator set plans) :
    (surroundings.run arguments).exitCode ≠ 0 ∧ (surroundings.run arguments).IsQuiet := by
  unfold Surroundings.run
  cases hdeed : surroundings.deed arguments with
  | error reason => exact ⟨by simp, rfl, rfl⟩
  | ok deed =>
    obtain ⟨generator, set, plans, prepares, -⟩ := deed_eq_ok_iff.mp hdeed
    exact absurd ⟨generator, set, plans, prepares⟩ h

/-- Which runs succeed. -/
theorem exitCode_eq_zero_iff : (surroundings.run arguments).exitCode = 0 ↔
    (∃ generator set plans, surroundings.Prepares arguments generator set plans) ∧
      (arguments.checkOnly = true ∨ surroundings.Takes arguments) := by
  by_cases hprepares : ∃ generator set plans, surroundings.Prepares arguments generator set plans
  · obtain ⟨generator, set, plans, prepares⟩ := hprepares
    rw [and_iff_right ⟨generator, set, plans, prepares⟩]
    cases hcheck : arguments.checkOnly with
    | true => simp [(run_of_checks prepares hcheck).1]
    | false =>
      rw [run_of_writes prepares hcheck]
      by_cases htakes : surroundings.Takes arguments
      · simp [htakes, (complete_place_of_takes htakes (generator.source plans)).1]
      · simp [htakes, (complete_place_of_not_takes htakes (generator.source plans)).1]
  · simp [hprepares, (run_of_not_prepares hprepares).1]

/-- Runs that check and runs that fail write nothing. -/
theorem isQuiet_run (h : arguments.checkOnly = true ∨ (surroundings.run arguments).exitCode ≠ 0) :
    (surroundings.run arguments).IsQuiet := by
  by_cases hprepares : ∃ generator set plans, surroundings.Prepares arguments generator set plans
  · obtain ⟨generator, set, plans, prepares⟩ := hprepares
    cases hcheck : arguments.checkOnly with
    | true => exact (run_of_checks prepares hcheck).2
    | false =>
      have hfails := h.resolve_left (by simp [hcheck])
      rw [run_of_writes prepares hcheck] at hfails ⊢
      by_cases htakes : surroundings.Takes arguments
      · exact absurd (complete_place_of_takes htakes _).1 hfails
      · exact (complete_place_of_not_takes htakes _).2
  · exact (run_of_not_prepares hprepares).2

/-- Every other run delivers the source. -/
theorem delivers_run (hcheck : arguments.checkOnly = false)
    (h : (surroundings.run arguments).exitCode = 0) :
    ∃ generator set plans, surroundings.Prepares arguments generator set plans ∧
      (surroundings.run arguments).Delivers arguments (generator.source plans) := by
  obtain ⟨⟨generator, set, plans, prepares⟩, hwrites⟩ := exitCode_eq_zero_iff.mp h
  have htakes := hwrites.resolve_left (by simp [hcheck])
  refine ⟨generator, set, plans, prepares, ?_⟩
  rw [run_of_writes prepares hcheck]
  exact (complete_place_of_takes htakes _).2

end Surroundings

/-! ### Runs of the program -/

section Accepted

variable {surroundings : Surroundings} {words : List String} {arguments : Arguments}

/-- What a run leaves besides its errors, by its arguments. -/
theorem run_of_accepted (accepted : Request.parse words = .ok (.run arguments)) :
    (run surroundings words).exitCode = (surroundings.run arguments).exitCode ∧
      (run surroundings words).output = (surroundings.run arguments).output ∧
      (run surroundings words).written = (surroundings.run arguments).written := by
  rw [run, accepted]
  exact ⟨rfl, rfl, rfl⟩

/-- A run that checks succeeds iff the same run without the check could, if it could write. -/
theorem exitCode_check_iff (accepted : Request.parse words = .ok (.run arguments))
    (hcheck : Flag.checkOnly.text ∈ words) :
    (run surroundings words).exitCode = 0 ↔
      (run surroundings.writable (words.filter (· != Flag.checkOnly.text))).exitCode = 0 := by
  have hchecks : arguments.checkOnly = true := (Request.isSaidBy accepted).checkOnly.mpr hcheck
  rw [(run_of_accepted accepted).1, (run_of_accepted (Request.parse_without_check accepted)).1,
    Surroundings.exitCode_eq_zero_iff, Surroundings.exitCode_eq_zero_iff]
  -- A check succeeds without regard to writing, and here nothing keeps the other from it.
  simp only [hchecks, true_or, and_true, Surroundings.takes_writable, or_true]
  have hcongr {generator : Generator} {set : SignatureSet} {plans : List Plan} :=
    @Surroundings.prepares_congr surroundings arguments generator set plans surroundings.writable
      rfl rfl false
  simp only [hcongr]

/-- A run that checks or fails prints nothing and writes nothing. -/
theorem isQuiet_of_accepted (accepted : Request.parse words = .ok (.run arguments))
    (h : Flag.checkOnly.text ∈ words ∨ (run surroundings words).exitCode ≠ 0) :
    (run surroundings words).output = "" ∧ (run surroundings words).written = none := by
  obtain ⟨hexit, houtput, hwritten⟩ := @run_of_accepted surroundings _ _ accepted
  rw [← (Request.isSaidBy accepted).checkOnly, hexit] at h
  have hquiet := Surroundings.isQuiet_run h
  rw [houtput, hwritten]
  exact ⟨hquiet.output, hquiet.written⟩

/-- **What a run leaves.** A run that only checks succeeds iff the same run without the check
would, could it write. A run that checks, and one that fails, prints and writes nothing. Any other
run delivers the source of the signatures in its document, to the file that it was given or else
to the standard output.

Printing and writing are the two channels of an `Outcome`. A path that leads to the standard output
counts as a file here, and `Directory.run` tells where it leads; faults of the standard errors are
left out. -/
theorem run_check_and_delivery (accepted : Request.parse words = .ok (.run arguments)) :
    ("--check" ∈ words →
      ((run surroundings words).exitCode = 0 ↔
        (run surroundings.writable (words.filter (· != "--check"))).exitCode = 0)) ∧
    ("--check" ∈ words ∨ (run surroundings words).exitCode ≠ 0 →
      (run surroundings words).output = "" ∧ (run surroundings words).written = none) ∧
    ("--check" ∉ words → (run surroundings words).exitCode = 0 →
      ∃ (generator : Generator) (bytes : ByteArray) (text : String) (set : SignatureSet)
        (source : String),
        Target.parse arguments.target = .ok generator.target ∧
        (generator.options.flushCache = true ↔ "--flush-cache" ∈ words ∨
          ∃ value, surroundings.environment "FLUSH_MEMOIZE_CACHE" = some value ∧
            Text.trimmed value = "1") ∧
        (generator.options.declareKernels = true ↔ "--no-extern-decls" ∉ words) ∧
        surroundings.contents arguments.source = .ok bytes ∧ textOfBytes bytes = .ok text ∧
        SignatureSet.parse text = .ok set ∧
        (∀ settings elapsed,
          (generator.generate settings elapsed set.functions).result = .ok source) ∧
        (∀ path, Asks words .output path →
          (run surroundings words).written = some (path, source) ∧
            (run surroundings words).output = "") ∧
        ((∀ path, ¬ Asks words .output path) →
          (run surroundings words).output = source ∧ (run surroundings words).written = none)) := by
  refine ⟨exitCode_check_iff accepted, isQuiet_of_accepted accepted, fun hcheck hexit => ?_⟩
  have said := Request.isSaidBy accepted
  obtain ⟨hcode, houtput, hwritten⟩ := @run_of_accepted surroundings _ _ accepted
  have hwrites : arguments.checkOnly = false :=
    eq_false_of_ne_true (said.checkOnly.not.mpr hcheck)
  obtain ⟨generator, set, plans, prepares, delivers⟩ :=
    Surroundings.delivers_run hwrites (hcode ▸ hexit)
  obtain ⟨bytes, text, hbytes, htext, hset⟩ := prepares.document
  refine ⟨generator, bytes, text, set, generator.source plans, prepares.target, ?_, ?_, hbytes,
    htext, hset, fun settings elapsed => ?_, fun path hpath => ?_, fun hnone => ?_⟩
  · rw [prepares.options, Arguments.options, Bool.or_eq_true, said.flushCache]
    refine or_congr_right ?_
    simp only [GeneratorOptions.ofVariable, Option.any_eq_true, beq_iff_eq]
    rfl
  · rw [prepares.options, Arguments.options, said.declareKernels]
    rfl
  · exact Generator.generate_eq_ok_iff.mpr ⟨plans, prepares.plans, rfl⟩
  · rw [hwritten, houtput]
    exact delivers.toFile path ((said.output path).mp hpath)
  · rw [hwritten, houtput]
    exact delivers.toOutput (Option.eq_none_iff_forall_ne_some.mpr fun path hpath =>
      hnone path ((said.output path).mpr hpath))

/-- The cache is to be flushed because the variable says so, blanks around its value or not. -/
theorem run_delivers_to_file :
    let surroundings : Surroundings := {
      environment := Environment.ofList [("FLUSH_MEMOIZE_CACHE", " 1 ")]
      standardInput := .error .notFound
      fileContents := fun _ =>
        .ok "\x7b\"version\":\"1.0\",\"functions\":[\x7b\"name\":\"f\",\"args\":[]\x7d]\x7d".toUTF8
      writeFault := fun _ => none }
    ∃ (generator : Generator) (set : SignatureSet) (source : String),
      generator.options.flushCache = true ∧
      (generator.generate {} 0 set.functions).result = .ok source ∧
      (run surroundings ["-s", "k.json", "-ow.cpp"]).written = some ("w.cpp", source) ∧
      (run surroundings ["-s", "k.json", "-ow.cpp"]).output = "" := by
  intro surroundings
  have accepted : Request.parse ["-s", "k.json", "-ow.cpp"] =
      .ok (.run { signatures := "k.json", output := some "w.cpp" }) := by
    decide +kernel
  obtain ⟨-, -, delivery⟩ := @run_check_and_delivery surroundings _ _ accepted
  obtain ⟨generator, -, -, set, source, -, hflush, -, -, -, -, hsource, hfile, -⟩ :=
    delivery (by decide) (by decide +kernel)
  exact ⟨generator, set, source, hflush.mpr (.inr ⟨" 1 ", rfl, by decide +kernel⟩), hsource _ _,
    hfile "w.cpp" (.inl ⟨"-ow.cpp", by simp, by decide +kernel⟩)⟩

end Accepted

/-! ### Runs in a directory -/

namespace Directory

variable {directory : Directory} {outcome : Outcome}

@[simp] theorem add_exitCode (path text : String) (aftermath : Aftermath) :
    (add path text aftermath).exitCode = aftermath.exitCode := by
  unfold add
  split
  · rfl
  · split <;> rfl
  · rfl

theorem settle_exitCode : (directory.settle outcome).exitCode = outcome.exitCode := by
  unfold settle
  split
  · exact add_exitCode _ _ _
  · rfl

/-- What is written to a file of the directory changes that file alone. -/
theorem find?_settle {path text name : String} (hwritten : outcome.written = some (path, text))
    (hplace : directory.resolve path = .ok (.file name)) (other : String) :
    (directory.settle outcome).directory.find? other =
      if other = name then some text.toUTF8 else directory.find? other := by
  simp only [settle, hwritten, add, hplace, find?, List.lookup_cons]
  by_cases hname : other = name
  · simp [hname]
  · simp [hname, beq_false_of_ne hname]

/-- A run that checks or fails prints nothing and leaves the directory as it was. -/
theorem run_leaves_nothing {environment : Environment} {input : Except FileFault ByteArray}
    {words : List String} {arguments : Arguments}
    (accepted : Request.parse words = .ok (.run arguments))
    (h : Flag.checkOnly.text ∈ words ∨ (directory.run environment input words).exitCode ≠ 0) :
    (directory.run environment input words).output = "" ∧
      (directory.run environment input words).directory = directory := by
  rw [Directory.run, settle_exitCode] at h
  obtain ⟨houtput, hwritten⟩ := isQuiet_of_accepted accepted h
  rw [Directory.run, settle, hwritten]
  exact ⟨houtput, rfl⟩

end Directory

end KernelBridge.CommandLine
