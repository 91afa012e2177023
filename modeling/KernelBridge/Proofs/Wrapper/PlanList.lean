import Mathlib.Data.List.Perm.Subperm
import KernelBridge.Proofs.Wrapper.Validation

/-!
# Plans of lists

A list of signatures is planned in one go, up to the first signature that has no plan, and the
names are compared afterwards. All of this is a matter of the plans that the signatures get each
on its own: here it is said which of them decides about the list.

## Main definitions

* `Generator.Settles` — how a list of signatures is planned, by its single plans

## Main results

* `firstRepeated_eq_some_iff` — the first name that stands a second time
* `Generator.plan_singleton` — a list of one signature
* `Generator.Settles.plan_eq`, `Generator.settles_plan` — every list is settled in one way
* `Generator.plan_eq_iff_settles` — the plans of a list, of its permutations and of its parts
-/

namespace KernelBridge

open FirstFault

/-! ### Repeated names -/

/-- The first name that stands a second time stands behind names that differ from each other,
and is one of them, unless it was seen before. -/
theorem firstRepeated_eq_some_iff {names seen : List String} {name : String} :
    firstRepeated seen names = some name ↔
      ∃ before after, names = before ++ name :: after ∧ before.Nodup ∧
        (∀ other ∈ before, other ∉ seen) ∧ name ∈ before ++ seen := by
  induction names generalizing seen with
  | nil => simp [firstRepeated]
  | cons head rest ih =>
    rw [firstRepeated]
    by_cases hseen : head ∈ seen
    · -- The head itself is repeated.
      rw [if_pos (by simpa using hseen), Option.some.injEq]
      constructor
      · rintro rfl
        exact ⟨[], rest, rfl, List.nodup_nil, by simp, by simpa using hseen⟩
      · rintro ⟨before, after, hsplit, -, hfresh, -⟩
        cases before with
        | nil => exact (List.cons.inj hsplit).1
        | cons first others =>
          obtain ⟨rfl, -⟩ := List.cons.inj hsplit
          exact absurd hseen (hfresh head List.mem_cons_self)
    · -- The head is one more name that has been seen.
      rw [if_neg (by simpa using hseen), ih]
      constructor
      · rintro ⟨before, after, rfl, hnodup, hfresh, hmem⟩
        refine ⟨head :: before, after, rfl, ?_, ?_, ?_⟩
        · exact List.nodup_cons.mpr ⟨fun h => (hfresh head h) List.mem_cons_self, hnodup⟩
        · refine List.forall_mem_cons.mpr ⟨hseen, fun other h hother => hfresh other h ?_⟩
          exact List.mem_cons_of_mem _ hother
        · simpa [or_left_comm, or_assoc] using hmem
      · rintro ⟨before, after, hsplit, hnodup, hfresh, hmem⟩
        cases before with
        | nil =>
          obtain ⟨rfl, -⟩ := List.cons.inj hsplit
          exact absurd (by simpa using hmem) hseen
        | cons first others =>
          obtain ⟨rfl, rfl⟩ := List.cons.inj hsplit
          obtain ⟨hhead, hnodup⟩ := List.nodup_cons.mp hnodup
          refine ⟨others, after, rfl, hnodup, fun other h hother => ?_, ?_⟩
          · rcases List.mem_cons.mp hother with rfl | hother
            · exact hhead h
            · exact hfresh other (List.mem_cons_of_mem _ h) hother
          · simpa [or_left_comm, or_assoc] using hmem

namespace Generator

variable {generator : Generator} {signatures : List Signature} {plans : List Plan}
  {result : Except GenerationError (List Plan)}

/-! ### Lists of one signature -/

theorem plan_singleton (hosts : generator.checkTarget = .ok ()) (signature : Signature) :
    (generator.plan [signature]).result =
      (generator.planOne signature).result.map fun plan => [plan] := by
  rw [plan, hosts]
  change (generator.planEach [signature]).result.bind distinct = _
  rw [planEach]
  cases (generator.planOne signature).result with
  | error error => rfl
  | ok plan => rfl

theorem plan_singleton_eq_ok_iff (hosts : generator.checkTarget = .ok ())
    {signature : Signature} {plan : Plan} :
    (generator.plan [signature]).result = .ok [plan] ↔ generator.Keeps signature plan := by
  rw [plan_singleton hosts, ← planOne_eq_ok_iff]
  cases (generator.planOne signature).result <;> simp [Except.map]

theorem exists_plan_singleton_iff (hosts : generator.checkTarget = .ok ())
    {signature : Signature} :
    (∃ plans, (generator.plan [signature]).result = .ok plans) ↔
      ∃ plan, generator.Keeps signature plan := by
  simp only [plan_singleton hosts, ← planOne_eq_ok_iff]
  cases (generator.planOne signature).result <;> simp [Except.map]

theorem plan_singleton_eq_error_iff (hosts : generator.checkTarget = .ok ())
    {signature : Signature} {error : GenerationError} :
    (generator.plan [signature]).result = .error error ↔
      (generator.planOne signature).result = .error error := by
  rw [plan_singleton hosts]
  cases (generator.planOne signature).result <;> simp [Except.map]

/-! ### Longer lists -/

/-- How a list of signatures is planned. The target decides first, then the first signature
that has no plan on its own, and then the first name that stands a second time. -/
inductive Settles (generator : Generator) (signatures : List Signature) :
    Except GenerationError (List Plan) → Prop
  /-- The target cannot host wrappers. -/
  | target {error : GenerationError} (refused : generator.checkTarget = .error error) :
      Settles generator signatures (.error error)
  /-- A signature has no plan on its own, and all before it have one. -/
  | rejected {before after : List Signature} {signature : Signature} {error : GenerationError}
      (hosts : generator.checkTarget = .ok ())
      (split : signatures = before ++ signature :: after)
      (first : ∀ other ∈ before, ∃ plans, (generator.plan [other]).result = .ok plans)
      (refused : (generator.plan [signature]).result = .error error) :
      Settles generator signatures (.error error)
  /-- All signatures have plans, but one has the name of another one before it. -/
  | repeated {before after : List Signature} {signature : Signature}
      (hosts : generator.checkTarget = .ok ())
      (accepted : ∀ other ∈ signatures, ∃ plans, (generator.plan [other]).result = .ok plans)
      (split : signatures = before ++ signature :: after)
      (first : (before.map Signature.name).Nodup)
      (again : signature.name ∈ before.map Signature.name) :
      Settles generator signatures (.error (.schema (.declaredTwice signature.name)))
  /-- All signatures have plans and names of their own. -/
  | planned {plans : List Plan} (hosts : generator.checkTarget = .ok ())
      (alone : List.Forall₂ (fun signature plan => (generator.plan [signature]).result = .ok [plan])
        signatures plans)
      (distinct : (signatures.map Signature.name).Nodup) :
      Settles generator signatures (.ok plans)

theorem plan_of_planEach_error (hosts : generator.checkTarget = .ok ()) {error : GenerationError}
    (h : (generator.planEach signatures).result = .error error) :
    (generator.plan signatures).result = .error error := by
  rw [plan, hosts]
  change (generator.planEach signatures).result.bind distinct = _
  rw [h]
  rfl

/-- Plans that are all there are kept, unless two of them have one name. -/
theorem plan_of_keeps (hosts : generator.checkTarget = .ok ())
    (keeps : List.Forall₂ generator.Keeps signatures plans) :
    (generator.plan signatures).result =
      match firstRepeated [] (signatures.map Signature.name) with
      | some name => .error (.schema (.declaredTwice name))
      | none => .ok plans := by
  rw [plan, hosts, ← map_qualifiedName_of_keeps keeps]
  change (generator.planEach signatures).result.bind distinct = _
  rw [planEach_eq_ok_iff.mpr keeps]
  rfl

/-- A list of signatures has plans if each of them has one on its own. -/
theorem exists_keeps_iff (hosts : generator.checkTarget = .ok ()) :
    (∃ plans, List.Forall₂ generator.Keeps signatures plans) ↔
      ∀ other ∈ signatures, ∃ plans, (generator.plan [other]).result = .ok plans := by
  simp only [exists_plan_singleton_iff hosts]
  induction signatures with
  | nil => simp
  | cons signature rest ih =>
    rw [List.forall_mem_cons, ← ih]
    constructor
    · rintro ⟨_, - | ⟨hfirst, hrest⟩⟩
      exact ⟨⟨_, hfirst⟩, ⟨_, hrest⟩⟩
    · rintro ⟨⟨plan, hfirst⟩, ⟨plans, hrest⟩⟩
      exact ⟨plan :: plans, .cons hfirst hrest⟩

/-- A list is planned in the way in which it is settled. -/
theorem Settles.plan_eq (settles : generator.Settles signatures result) :
    (generator.plan signatures).result = result := by
  cases settles with
  | target refused => rw [plan, refused]
  | rejected hosts split first refused =>
    refine plan_of_planEach_error hosts (planEach_eq_error_iff.mpr ⟨_, _, _, split, ?_, ?_⟩)
    · exact fun other hother => (exists_plan_singleton_iff hosts).mp (first other hother)
    · exact (plan_singleton_eq_error_iff hosts).mp refused
  | @repeated before after signature hosts accepted split first again =>
    obtain ⟨plans, keeps⟩ := (exists_keeps_iff hosts).mpr accepted
    have hrepeated : firstRepeated [] (signatures.map Signature.name) = some signature.name := by
      refine firstRepeated_eq_some_iff.mpr ⟨before.map Signature.name, after.map Signature.name,
        ?_, first, by simp, by simpa using again⟩
      rw [split, List.map_append, List.map_cons]
    rw [plan_of_keeps hosts keeps, hrepeated]
  | planned hosts alone distinct =>
    have keeps := alone.imp fun _ _ h => (plan_singleton_eq_ok_iff hosts).mp h
    rw [plan_of_keeps hosts keeps, firstRepeated_eq_none_iff.mpr ⟨distinct, by simp⟩]

theorem exists_settles (generator : Generator) (signatures : List Signature) :
    ∃ result, generator.Settles signatures result := by
  cases hosts : generator.checkTarget with
  | error error => exact ⟨_, .target hosts⟩
  | ok =>
    cases hplans : (generator.planEach signatures).result with
    | error error =>
      obtain ⟨before, signature, after, split, first, refused⟩ := planEach_eq_error_iff.mp hplans
      exact ⟨_, .rejected hosts split
        (fun other hother => (exists_plan_singleton_iff hosts).mpr (first other hother))
        ((plan_singleton_eq_error_iff hosts).mpr refused)⟩
    | ok plans =>
      have keeps := planEach_eq_ok_iff.mp hplans
      cases hrepeated : firstRepeated [] (signatures.map Signature.name) with
      | none =>
        have alone := keeps.imp fun _ _ h => (plan_singleton_eq_ok_iff hosts).mpr h
        exact ⟨_, .planned hosts alone (firstRepeated_eq_none_iff.mp hrepeated).1⟩
      | some name =>
        obtain ⟨names, others, hsplit, first, -, again⟩ := firstRepeated_eq_some_iff.mp hrepeated
        obtain ⟨before, rest, split, rfl, hrest⟩ := List.map_eq_append_iff.mp hsplit
        obtain ⟨signature, after, rfl, rfl, -⟩ := List.map_eq_cons_iff.mp hrest
        exact ⟨_, .repeated hosts ((exists_keeps_iff hosts).mp ⟨plans, keeps⟩) split first
          (by simpa using again)⟩

/-- Every list is settled as it is planned. -/
theorem settles_plan (generator : Generator) (signatures : List Signature) :
    generator.Settles signatures (generator.plan signatures).result := by
  obtain ⟨result, settles⟩ := exists_settles generator signatures
  rwa [settles.plan_eq]

/-! ### Lists of the same signatures -/

/-- The plans of an accepted list are its signatures' own, so that any of the signatures, in any
order, have theirs. -/
theorem plan_of_subperm (accepted : (generator.plan signatures).result = .ok plans) :
    ∃ alone : Signature → Plan, plans = signatures.map alone ∧
      ∀ others : List Signature, others.Subperm signatures →
        (generator.plan others).result = .ok (others.map alone) := by
  obtain ⟨hosts, keeps, hnodup⟩ := plan_eq_ok_iff.mp accepted
  rw [map_qualifiedName_of_keeps keeps] at hnodup
  have : Nonempty Plan := ⟨⟨"", [], "", []⟩⟩
  have hexists : ∀ signature ∈ signatures, ∃ plan, generator.Keeps signature plan :=
    fun signature hsignature => (exists_plan_singleton_iff hosts).mp
      ((exists_keeps_iff hosts).mp ⟨plans, keeps⟩ signature hsignature)
  choose! alone halone using hexists
  have hplans {others : List Signature} (hsubset : ∀ other ∈ others, other ∈ signatures) :
      List.Forall₂ generator.Keeps others (others.map alone) := by
    rw [List.forall₂_map_right_iff, List.forall₂_same]
    exact fun other hother => halone other (hsubset other hother)
  refine ⟨alone, ?_, fun others subperm => ?_⟩
  · have hsame := planEach_eq_ok_iff.mpr keeps
    rw [planEach_eq_ok_iff.mpr (hplans fun _ h => h)] at hsame
    exact (Except.ok.inj hsame).symm
  · have hothers := hplans subperm.subset
    refine plan_eq_ok_iff.mpr ⟨hosts, hothers, ?_⟩
    rw [map_qualifiedName_of_keeps hothers]
    obtain ⟨chosen, perm, sublist⟩ := subperm
    exact (perm.map Signature.name).nodup_iff.mp ((sublist.map Signature.name).nodup hnodup)

/-- **Plans of a list.** A list of signatures is planned as its single plans settle it: the
target decides first, then the first signature that has no plan on its own, then the first name
that stands a second time. The plans of an accepted list are those of its signatures, and any
of them are accepted in any order, with the same plans. -/
theorem plan_eq_iff_settles (generator : Generator) (signatures : List Signature) :
    (∀ result, (generator.plan signatures).result = result ↔
      generator.Settles signatures result) ∧
    ∀ plans, (generator.plan signatures).result = .ok plans →
      ∃ alone : Signature → Plan, plans = signatures.map alone ∧
        ∀ others : List Signature, others.Subperm signatures →
          (generator.plan others).result = .ok (others.map alone) := by
  refine ⟨fun result => ⟨?_, Settles.plan_eq⟩, fun plans => plan_of_subperm⟩
  rintro rfl
  exact settles_plan generator signatures

/-- A signature without a plan decides even behind a name that stands a second time. -/
example : (plan ⟨.host, {}⟩ [⟨"f", []⟩, ⟨"f", []⟩, ⟨"g", [.scalar "err" .i32]⟩]).result =
    .error (.signature "g" (.shadowsLocal "err" .cpu)) :=
  rfl

end Generator

end KernelBridge
