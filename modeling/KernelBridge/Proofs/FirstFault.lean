import Mathlib.Data.List.Basic

/-!
# Checks that stop at the first fault

Signatures and tensors are checked one after the other, and the first fault decides. These
laws say of such a sequence when it passes and which fault it has.

## Main results

* `bind_eq_ok_iff`, `bind_eq_error_iff` — two checks in a row
* `forM_eq_ok_iff` — a list passes a check iff every member does
* `forM_eq_error_iff` — the fault of a list is that of its first member that has one
* `foldlM_eq_error_iff` — the same of steps that hand a state on
* `fresh_cons_iff` — members compared with those before them, one after the other
-/

namespace KernelBridge.FirstFault

variable {α β ε φ : Type} {fault : ε}

theorem bind_eq_ok_iff {first : Except ε α} {next : α → Except ε β} {b : β} :
    first >>= next = .ok b ↔ ∃ a, first = .ok a ∧ next a = .ok b := by
  cases first <;> simp [bind, Except.bind]

theorem bind_eq_error_iff {first : Except ε α} {next : α → Except ε β} :
    first >>= next = .error fault ↔
      first = .error fault ∨ ∃ a, first = .ok a ∧ next a = .error fault := by
  cases first <;> simp [bind, Except.bind]

/-- A check that hands nothing on is passed together with the one after it. -/
theorem then_eq_ok_iff {first : Except ε Unit} {next : Unit → Except ε β} {b : β} :
    first >>= next = .ok b ↔ first = .ok () ∧ next () = .ok b := by
  rw [bind_eq_ok_iff]
  exact ⟨fun ⟨_, h⟩ => h, fun h => ⟨(), h⟩⟩

/-- A test that refuses is passed if it does not hold. -/
theorem guard_eq_ok_iff {refused : Prop} [Decidable refused] {a b : α} :
    (if refused then .error fault else .ok a : Except ε α) = .ok b ↔ ¬ refused ∧ b = a := by
  split <;> simp [*, eq_comm]

@[simp] theorem mapError_eq_ok_iff {check : Except ε α} {wrap : ε → φ} {a : α} :
    check.mapError wrap = .ok a ↔ check = .ok a := by
  cases check <;> simp [Except.mapError]

variable {check : α → Except ε Unit} {xs : List α}

/-- A list passes a check iff every member does. -/
theorem forM_eq_ok_iff : xs.forM check = .ok () ↔ ∀ x ∈ xs, check x = .ok () := by
  induction xs with
  | nil => simp [List.forM, pure, Except.pure]
  | cons x rest ih =>
    change (check x >>= fun _ => rest.forM check) = _ ↔ _
    rw [then_eq_ok_iff, ih, List.forall_mem_cons]

/-- The fault of a list is that of the first member that does not pass. -/
theorem forM_eq_error_iff :
    xs.forM check = .error fault ↔
      ∃ before x after, xs = before ++ x :: after ∧
        (∀ y ∈ before, check y = .ok ()) ∧ check x = .error fault := by
  induction xs with
  | nil => simp [List.forM, pure, Except.pure]
  | cons x rest ih =>
    change (check x >>= fun _ => rest.forM check) = _ ↔ _
    rw [bind_eq_error_iff, ih]
    constructor
    · -- The fault is that of the head, or the head passes and the rest has it.
      rintro (hx | ⟨_, hx, before, y, after, rfl, hbefore, hy⟩)
      · exact ⟨[], x, rest, rfl, by simp, hx⟩
      · exact ⟨x :: before, y, after, rfl, by simpa using ⟨hx, hbefore⟩, hy⟩
    · -- The head is the first faulty member exactly if none comes before that.
      rintro ⟨before, y, after, hsplit, hbefore, hy⟩
      cases before with
      | nil =>
        obtain ⟨rfl, -⟩ := List.cons.inj hsplit
        exact .inl hy
      | cons z before =>
        obtain ⟨rfl, rfl⟩ := List.cons.inj hsplit
        obtain ⟨hx, hbefore⟩ := List.forall_mem_cons.mp hbefore
        exact .inr ⟨(), hx, before, y, after, rfl, hbefore, hy⟩

/-- Steps that hand a state on stop at the first one that fails, in the state that those before
it have led to. -/
theorem foldlM_eq_error_iff {step : β → α → Except ε β} {init : β} :
    xs.foldlM step init = .error fault ↔
      ∃ before x after state, xs = before ++ x :: after ∧
        before.foldlM step init = .ok state ∧ step state x = .error fault := by
  induction xs generalizing init with
  | nil => simp [pure, Except.pure]
  | cons x rest ih =>
    rw [List.foldlM_cons, bind_eq_error_iff]
    constructor
    · rintro (hx | ⟨next, hx, hrest⟩)
      · exact ⟨[], x, rest, init, rfl, rfl, hx⟩
      · obtain ⟨before, y, after, state, rfl, hbefore, hy⟩ := ih.mp hrest
        refine ⟨x :: before, y, after, state, rfl, ?_, hy⟩
        rw [List.foldlM_cons, bind_eq_ok_iff]
        exact ⟨next, hx, hbefore⟩
    · rintro ⟨before, y, after, state, hsplit, hbefore, hy⟩
      cases before with
      | nil =>
        obtain ⟨rfl, -⟩ := List.cons.inj hsplit
        obtain rfl := Except.ok.inj hbefore
        exact .inl hy
      | cons z before =>
        obtain ⟨rfl, rfl⟩ := List.cons.inj hsplit
        rw [List.foldlM_cons, bind_eq_ok_iff] at hbefore
        obtain ⟨next, hx, hbefore⟩ := hbefore
        exact .inr ⟨next, hx, ih.mpr ⟨before, y, after, state, rfl, hbefore, hy⟩⟩

/-- The names of the members of a list differ from each other and from those seen before it iff
the first one's does from those seen before, and the others' do once it has been seen as well. -/
theorem fresh_cons_iff {name : α → β} {x : α} {seen : List β} :
    (name x ∉ seen ∧ (xs.map name).Nodup ∧ ∀ y ∈ xs, name y ∉ name x :: seen) ↔
      ((x :: xs).map name).Nodup ∧ ∀ y ∈ x :: xs, name y ∉ seen := by
  simp only [List.map_cons, List.nodup_cons, List.mem_map, List.mem_cons, not_or, not_exists,
    not_and, forall_eq_or_imp]
  constructor
  · rintro ⟨hseen, hnodup, hfresh⟩
    exact ⟨⟨fun y hy => (hfresh y hy).1, hnodup⟩, hseen, fun y hy => (hfresh y hy).2⟩
  · rintro ⟨⟨hfirst, hnodup⟩, hseen, hfresh⟩
    exact ⟨hseen, hnodup, fun y hy => ⟨hfirst y hy, hfresh y hy⟩⟩

end KernelBridge.FirstFault
