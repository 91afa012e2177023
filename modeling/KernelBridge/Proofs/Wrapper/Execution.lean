import Mathlib.Data.List.Nodup
import KernelBridge.Wrapper.Execution

/-!
# Laws of execution

How a frame changes under the statements of a wrapper, and how the execution of a list of
statements follows from its parts. A statement brings the names that it declares into scope,
and it does the same whatever else is in scope below the names that it knows of.

## Main definitions

* `Frame.below` — a frame with more locals in front
* `Frame.Apart` — locals that have none of some names

## Main results

* `Frame.lookup_of_mem` — as long as names differ, each stands for its own value
* `Frame.names_of_advance` — what a statement declares is what it brings into scope
* `Frame.execute_append_of_next`, `Frame.execute_append_of_ended` — an execution by its parts
* `Frame.advance_below`, `Frame.advanceAll_below` — the frame rule
-/

namespace KernelBridge

open Bridge (State Session)

variable {Report : Type}

namespace Progress

@[simp] theorem bind_next (frame : Frame Report) (continuation : Frame Report → Progress Report) :
    (next frame).bind continuation = continuation frame := rfl

@[simp] theorem bind_ended (ending : Ending Report)
    (continuation : Frame Report → Progress Report) :
    (ended ending).bind continuation = .ended ending := rfl

@[simp] theorem ofOption_some (frame : Frame Report) : ofOption (some frame) = .next frame := rfl

theorem ofOption_eq_next_iff {found : Option (Frame Report)} {left : Frame Report} :
    ofOption found = .next left ↔ found = some left := by
  cases found <;> simp [ofOption]

theorem bind_eq_next_iff {progress : Progress Report}
    {continuation : Frame Report → Progress Report} {left : Frame Report} :
    progress.bind continuation = .next left ↔
      ∃ middle, progress = .next middle ∧ continuation middle = .next left := by
  cases progress <;> simp [bind]

end Progress

namespace Frame

variable {frame left : Frame Report} {host : Host} {entry : EntryPoint Report} {name : String}
  {value : Value} {arguments : List (String × Value)}

/-! ### Names -/

/-- As long as the names differ, each stands for its own value. -/
theorem lookup_of_mem (nodup : frame.names.Nodup) (h : (name, value) ∈ frame.locals) :
    frame.lookup name = some value := by
  obtain ⟨before, after, hsplit⟩ := List.mem_iff_append.mp h
  refine List.lookup_eq_some_iff.mpr ⟨before, after, hsplit, fun pair hpair => ?_⟩
  rw [names, hsplit, List.map_append, List.nodup_append] at nodup
  have hne := nodup.2.2 pair.1 (List.mem_map_of_mem hpair) name List.mem_cons_self
  simpa using Ne.symm hne

theorem mem_names_of_lookup (h : frame.lookup name = some value) : name ∈ frame.names := by
  obtain ⟨before, after, hsplit, -⟩ := List.lookup_eq_some_iff.mp h
  simp [names, hsplit]

theorem declare_of_not_mem (fresh : name ∉ frame.names) :
    frame.declare name value = some { frame with locals := frame.locals ++ [(name, value)] } :=
  if_neg fresh

/-- Locals without the name stay as they are. -/
theorem map_assign_of_not_mem {others : List (String × Value)}
    (fresh : name ∉ others.map Prod.fst) :
    others.map (fun (other, old) => (other, if other = name then value else old)) = others := by
  refine (List.map_congr_left fun pair hpair => ?_).trans (List.map_id others)
  have hne : pair.1 ≠ name := fun heq => fresh (heq ▸ List.mem_map_of_mem hpair)
  simp [hne]

/-- Only the entry with the name changes. -/
theorem assign_middle {before after : List (String × Value)} {old : Value} {fields : List Field}
    {report : Option Report}
    (nodup : ((before ++ (name, old) :: after).map Prod.fst).Nodup) :
    ({ locals := before ++ (name, old) :: after, fields, report } : Frame Report).assign name
        value =
      { locals := before ++ (name, value) :: after, fields, report } := by
  simp only [List.map_append, List.map_cons, List.nodup_middle, List.nodup_cons,
    List.mem_append, not_or] at nodup
  obtain ⟨⟨hbefore, hafter⟩, -⟩ := nodup
  simp [assign, map_assign_of_not_mem hbefore, map_assign_of_not_mem hafter]

/-! ### What is in scope -/

@[simp] theorem names_assign : (frame.assign name value).names = frame.names := by
  simp [names, assign, Function.comp_def]

theorem declare_eq_some_iff :
    frame.declare name value = some left ↔
      name ∉ frame.names ∧ left = { frame with locals := frame.locals ++ [(name, value)] } := by
  unfold declare
  split <;> simp [*, eq_comm]

theorem setField_eq_some {field : String} (h : frame.setField field value = some left) :
    ∃ fields, left = { frame with fields } := by
  obtain ⟨held, -, rfl⟩ := Option.map_eq_some_iff.mp h
  exact ⟨_, rfl⟩

theorem check_eq_next_iff {failure : Failure} {passed : Option Bool} :
    frame.check failure passed = .next left ↔ passed = some true ∧ left = frame := by
  unfold check
  split <;> simp [eq_comm]

@[simp] theorem names_written (expression : Expression) :
    (frame.written host expression).names = frame.names := by
  unfold written
  split
  · split
    · split <;> simp
    · rfl
  · rfl

/-- A statement brings exactly the names that it declares into scope. -/
theorem names_of_advance {statement : Statement} (h : frame.advance host statement = .next left) :
    left.names = frame.names ++ statement.declares := by
  have hdeclare {frame left : Frame Report} {name : String} {value : Value}
      (h : frame.declare name value = some left) : left.names = frame.names ++ [name] := by
    obtain ⟨-, rfl⟩ := declare_eq_some_iff.mp h
    simp [names]
  cases statement with
  | comment text =>
    obtain rfl := Progress.next.inj h
    simp [Statement.declares]
  | declareLocal type name value =>
    obtain ⟨held, -, h⟩ := Option.bind_eq_some_iff.mp (Progress.ofOption_eq_next_iff.mp h)
    simp [hdeclare h, Statement.declares]
  | declareRecord fields =>
    obtain ⟨middle, hmiddle, rfl⟩ := Option.map_eq_some_iff.mp (Progress.ofOption_eq_next_iff.mp h)
    obtain ⟨first, hfirst, hsecond⟩ := Option.bind_eq_some_iff.mp hmiddle
    change middle.names = _
    simp [hdeclare hsecond, hdeclare hfirst, Statement.declares]
  | setField field value =>
    obtain ⟨held, -, h⟩ := Option.bind_eq_some_iff.mp (Progress.ofOption_eq_next_iff.mp h)
    obtain ⟨fields, rfl⟩ := setField_eq_some h
    change (frame.written host value).names = _
    simp [Statement.declares]
  | assertThat condition =>
    obtain ⟨-, rfl⟩ := check_eq_next_iff.mp h
    simp [Statement.declares]
  | checkContiguous buffer =>
    obtain ⟨-, rfl⟩ := check_eq_next_iff.mp h
    simp [Statement.declares]
  | checkDevice buffer =>
    obtain ⟨-, rfl⟩ := check_eq_next_iff.mp h
    simp [Statement.declares]
  | declareView placement buffer =>
    obtain ⟨tensor, -, h⟩ := Option.bind_eq_some_iff.mp (Progress.ofOption_eq_next_iff.mp h)
    simp [hdeclare h, Statement.declares]
  | detach buffer =>
    obtain ⟨view, -, rfl⟩ := Option.map_eq_some_iff.mp (Progress.ofOption_eq_next_iff.mp h)
    simp [Statement.declares]
  | callKernel kernel parameters => cases h
  | flushCache argument => cases h
  | returnZero => cases h

/-! ### Parts of an execution -/

theorem advanceAll_cons (statement : Statement) (rest : List Statement) :
    frame.advanceAll host (statement :: rest) =
      (frame.advance host statement).bind fun frame => frame.advanceAll host rest := rfl

@[simp] theorem advanceAll_comment_cons (text : String) (rest : List Statement) :
    frame.advanceAll host (.comment text :: rest) = frame.advanceAll host rest := rfl

theorem advanceAll_append (first second : List Statement) :
    frame.advanceAll host (first ++ second) =
      (frame.advanceAll host first).bind fun frame => frame.advanceAll host second := by
  induction first generalizing frame with
  | nil => rfl
  | cons statement rest ih =>
    rw [List.cons_append, advanceAll_cons, advanceAll_cons]
    cases frame.advance host statement with
    | next next => exact ih
    | ended ending => rfl
    | stuck => rfl

theorem names_of_advanceAll {statements : List Statement}
    (h : frame.advanceAll host statements = .next left) :
    left.names = frame.names ++ statements.flatMap Statement.declares := by
  induction statements generalizing frame with
  | nil =>
    obtain rfl := Progress.next.inj h
    simp
  | cons statement rest ih =>
    obtain ⟨next, hstep, hrest⟩ := Progress.bind_eq_next_iff.mp h
    rw [ih hrest, names_of_advance hstep, List.flatMap_cons, List.append_assoc]

/-- A statement that stays within the wrapper does not touch the session. -/
theorem step_of_advance {statement : Statement} {progress : Progress Report} (start : State)
    (h : frame.advance host statement = progress) (goesOn : progress ≠ .stuck) :
    frame.step host entry statement start = .ok progress start := by
  subst h
  -- Only calls out of the wrapper take more than that, and those get stuck within it.
  cases statement <;> first | rfl | exact absurd rfl goesOn

theorem execute_cons_of_next {statement : Statement} {rest : List Statement} {start after : State}
    (h : frame.step host entry statement start = .ok (.next left) after) :
    execute host entry frame (statement :: rest) start = execute host entry left rest after :=
  Bridge.Session.bind_of_ok h

theorem execute_cons_of_error {statement : Statement} {rest : List Statement} {start after : State}
    {cause : Bridge.Aborted} (h : frame.step host entry statement start = .error cause after) :
    execute host entry frame (statement :: rest) start = .error cause after :=
  Bridge.Session.bind_of_error h

/-- Statements that stay within the wrapper only change the frame for what comes after them. -/
theorem execute_append_of_next {first : List Statement} (second : List Statement) (start : State)
    (h : frame.advanceAll host first = .next left) :
    execute host entry frame (first ++ second) start =
      execute host entry left second start := by
  induction first generalizing frame with
  | nil =>
    obtain rfl := Progress.next.inj h
    rfl
  | cons statement rest ih =>
    obtain ⟨next, hstep, hrest⟩ := Progress.bind_eq_next_iff.mp h
    rw [List.cons_append, execute_cons_of_next (step_of_advance start hstep (by simp))]
    exact ih hrest

/-- What comes after the end is not executed. -/
theorem execute_append_of_ended {first : List Statement} (second : List Statement) (start : State)
    {ending : Ending Report} (h : frame.advanceAll host first = .ended ending) :
    execute host entry frame (first ++ second) start = .ok (some ending) start := by
  induction first generalizing frame with
  | nil => cases h
  | cons statement rest ih =>
    rw [advanceAll_cons] at h
    cases hstep : frame.advance host statement with
    | next next =>
      rw [hstep] at h
      rw [List.cons_append, execute_cons_of_next (step_of_advance start hstep (by simp))]
      exact ih h
    | ended found =>
      rw [hstep] at h
      obtain rfl := Progress.ended.inj h
      exact Bridge.Session.bind_of_ok (step_of_advance start hstep (by simp))
    | stuck =>
      rw [hstep] at h
      cases h

/-! ### The frame rule -/

/-- The frame with more locals in front. -/
def below (arguments : List (String × Value)) (frame : Frame Report) : Frame Report :=
  { frame with locals := arguments ++ frame.locals }

/-- The locals in front have none of the names. -/
def Apart (arguments : List (String × Value)) (names : List String) : Prop :=
  ∀ name ∈ names, name ∉ arguments.map Prod.fst

theorem lookup_below (apart : Apart arguments frame.names) (h : frame.lookup name = some value) :
    (frame.below arguments).lookup name = some value := by
  have hname : name ∈ frame.names := mem_names_of_lookup h
  have hnone : arguments.lookup name = none := by
    rw [List.lookup_eq_none_iff]
    intro pair hpair
    rw [bne_iff_ne]
    rintro rfl
    exact apart _ hname (List.mem_map_of_mem hpair)
  rw [lookup, below, List.lookup_append, hnone, Option.none_or]
  exact h

theorem bind_lookup_below {α : Type} {project : Value → Option α} {found : α}
    (apart : Apart arguments frame.names) (h : (frame.lookup name).bind project = some found) :
    ((frame.below arguments).lookup name).bind project = some found := by
  obtain ⟨value, hvalue, hfound⟩ := Option.bind_eq_some_iff.mp h
  rw [lookup_below apart hvalue]
  exact hfound

theorem declare_below (apart : Apart arguments left.names)
    (h : frame.declare name value = some left) :
    (frame.below arguments).declare name value = some (left.below arguments) := by
  obtain ⟨hfresh, rfl⟩ := declare_eq_some_iff.mp h
  have hfront : name ∉ arguments.map Prod.fst := apart name (by simp [names])
  refine declare_eq_some_iff.mpr ⟨fun hmem => ?_, by simp [below]⟩
  rw [names, below, List.map_append, List.mem_append] at hmem
  exact hmem.elim hfront hfresh

theorem assign_below (apart : name ∉ arguments.map Prod.fst) :
    (frame.below arguments).assign name value = (frame.assign name value).below arguments := by
  simp [assign, below, map_assign_of_not_mem apart]

theorem eval_below {expression : Expression} (apart : Apart arguments frame.names)
    (h : frame.eval host expression = some value) :
    (frame.below arguments).eval host expression = some value := by
  have hnames {name : String} (hname : name ∈ frame.names) :
      name ∈ (frame.below arguments).names := by
    rw [names, below, List.map_append]
    exact List.mem_append_right _ hname
  cases expression with
  | named name => exact lookup_below apart h
  | addressOf name | untypedAddressOf name =>
    obtain ⟨hname, hvalue⟩ := Option.ite_none_right_eq_some.mp h
    exact Option.ite_none_right_eq_some.mpr ⟨hnames hname, hvalue⟩
  | currentContext target =>
    simp only [eval] at h ⊢
    split at h
    · obtain ⟨hname, hvalue⟩ := Option.ite_none_right_eq_some.mp h
      exact Option.ite_none_right_eq_some.mpr ⟨hnames hname, hvalue⟩
    · cases h
  | currentStream device =>
    simp only [eval] at h ⊢
    cases hordinal : (frame.lookup device).bind Value.number? with
    | none => simp [hordinal] at h
    | some ordinal =>
      rw [hordinal] at h
      rw [bind_lookup_below apart hordinal]
      exact h
  | deviceIndex stream =>
    simp only [eval] at h ⊢
    cases hstream : (frame.lookup stream).bind Value.metalStream? with
    | none => simp [hstream] at h
    | some found =>
      rw [hstream] at h
      rw [bind_lookup_below apart hstream]
      exact h
  | _ => exact h

theorem written_below {expression : Expression} (apart : Apart arguments frame.names)
    (h : frame.eval host expression = some value) :
    (frame.below arguments).written host expression =
      (frame.written host expression).below arguments := by
  cases expression with
  | currentContext target =>
    simp only [eval, written] at h ⊢
    split at h
    · obtain ⟨hname, -⟩ := Option.ite_none_right_eq_some.mp h
      simp only [assign_below (apart target hname)]
      split <;> rfl
    · cases h
  | _ => rfl

theorem decides_below {condition : Condition} {holds : Bool} (apart : Apart arguments frame.names)
    (h : frame.decides condition = some holds) :
    (frame.below arguments).decides condition = some holds := by
  cases condition <;>
  · obtain ⟨found, hfound, rfl⟩ := Option.map_eq_some_iff.mp h
    exact Option.map_eq_some_iff.mpr ⟨found, bind_lookup_below apart hfound, rfl⟩

theorem setField_below {field : String} (h : frame.setField field value = some left) :
    (frame.below arguments).setField field value = some (left.below arguments) := by
  obtain ⟨held, hheld, rfl⟩ := Option.map_eq_some_iff.mp h
  exact Option.map_eq_some_iff.mpr ⟨held, hheld, rfl⟩

/-- **Frame rule.** A statement that makes sense does the same below locals whose names are
apart from all that it has in scope afterwards. -/
theorem advance_below {statement : Statement} (apart : Apart arguments left.names)
    (h : frame.advance host statement = .next left) :
    (frame.below arguments).advance host statement = .next (left.below arguments) := by
  -- The statement reads names that were in scope before it, and declares those that are new.
  have hapart : Apart arguments frame.names := by
    intro name hname
    refine apart name ?_
    rw [names_of_advance h]
    exact List.mem_append_left _ hname
  cases statement with
  | comment text =>
    obtain rfl := Progress.next.inj h
    rfl
  | declareLocal type name value =>
    obtain ⟨held, hheld, hleft⟩ := Option.bind_eq_some_iff.mp (Progress.ofOption_eq_next_iff.mp h)
    obtain ⟨found, hfound, hholds⟩ := Option.bind_eq_some_iff.mp hheld
    refine Progress.ofOption_eq_next_iff.mpr ?_
    rw [eval_below hapart hfound, Option.bind_some, hholds, Option.bind_some,
      written_below hapart hfound]
    exact declare_below apart hleft
  | declareRecord fields =>
    obtain ⟨middle, hmiddle, rfl⟩ :=
      Option.map_eq_some_iff.mp (Progress.ofOption_eq_next_iff.mp h)
    obtain ⟨first, hfirst, hsecond⟩ := Option.bind_eq_some_iff.mp hmiddle
    have hapart' : Apart arguments first.names := by
      intro name hname
      refine apart name ?_
      obtain ⟨-, rfl⟩ := declare_eq_some_iff.mp hsecond
      rw [names, List.map_append]
      exact List.mem_append_left _ hname
    have hmiddle' : Apart arguments middle.names := apart
    refine Progress.ofOption_eq_next_iff.mpr ?_
    rw [declare_below hapart' hfirst, Option.bind_some, declare_below hmiddle' hsecond]
    rfl
  | setField field value =>
    obtain ⟨found, hfound, hleft⟩ := Option.bind_eq_some_iff.mp (Progress.ofOption_eq_next_iff.mp h)
    refine Progress.ofOption_eq_next_iff.mpr ?_
    rw [eval_below hapart hfound, Option.bind_some, written_below hapart hfound]
    exact setField_below hleft
  | assertThat condition =>
    obtain ⟨hholds, rfl⟩ := check_eq_next_iff.mp h
    exact check_eq_next_iff.mpr ⟨decides_below hapart hholds, rfl⟩
  | checkContiguous buffer =>
    obtain ⟨hholds, rfl⟩ := check_eq_next_iff.mp h
    obtain ⟨tensor, htensor, hcontiguous⟩ := Option.map_eq_some_iff.mp hholds
    exact check_eq_next_iff.mpr
      ⟨Option.map_eq_some_iff.mpr ⟨tensor, bind_lookup_below hapart htensor, hcontiguous⟩, rfl⟩
  | checkDevice buffer =>
    obtain ⟨hholds, rfl⟩ := check_eq_next_iff.mp h
    obtain ⟨tensor, htensor, hordinal⟩ := Option.bind_eq_some_iff.mp hholds
    obtain ⟨ordinal, hordinal, hresident⟩ := Option.map_eq_some_iff.mp hordinal
    refine check_eq_next_iff.mpr ⟨?_, rfl⟩
    rw [bind_lookup_below hapart htensor, Option.bind_some, bind_lookup_below hapart hordinal]
    exact congrArg some hresident
  | declareView placement buffer =>
    obtain ⟨tensor, htensor, hleft⟩ :=
      Option.bind_eq_some_iff.mp (Progress.ofOption_eq_next_iff.mp h)
    refine Progress.ofOption_eq_next_iff.mpr ?_
    rw [bind_lookup_below hapart htensor]
    exact declare_below apart hleft
  | detach buffer =>
    obtain ⟨view, hview, rfl⟩ := Option.map_eq_some_iff.mp (Progress.ofOption_eq_next_iff.mp h)
    have hname : buffer.viewName ∈ frame.names := by
      obtain ⟨value, hvalue, -⟩ := Option.bind_eq_some_iff.mp hview
      exact mem_names_of_lookup hvalue
    refine Progress.ofOption_eq_next_iff.mpr ?_
    rw [bind_lookup_below hapart hview, Option.map_some, assign_below (hapart _ hname)]
  | callKernel kernel parameters => cases h
  | flushCache argument => cases h
  | returnZero => cases h

theorem advanceAll_below {statements : List Statement} (apart : Apart arguments left.names)
    (h : frame.advanceAll host statements = .next left) :
    (frame.below arguments).advanceAll host statements = .next (left.below arguments) := by
  induction statements generalizing frame with
  | nil =>
    obtain rfl := Progress.next.inj h
    rfl
  | cons statement rest ih =>
    obtain ⟨next, hstep, hrest⟩ := Progress.bind_eq_next_iff.mp h
    -- Names stay in scope, so those after one statement are among those at the end.
    have hapart : Apart arguments next.names := by
      intro name hname
      refine apart name ?_
      rw [names_of_advanceAll hrest]
      exact List.mem_append_left _ hname
    rw [advanceAll_cons, advance_below hapart hstep]
    exact ih hrest

end Frame

end KernelBridge
