import Mathlib.Data.List.Induction
import Mathlib.Tactic.MkIffOfInductiveProp
import KernelBridge.Proofs.Tracing.Installation
import KernelBridge.Tracing.Performance

/-!
# Sections over time

While sections of work begin and end, the settings for all of them can be changed at any time.
Nothing of the settings is kept with a section. So what decides about its report is what was set
last before it ends, whatever was in force when it began.

## Main definitions

* `Occurrence` — new settings, or the beginning or end of a section
* `Timekeeper`, `Timekeeper.run` — the settings with the running sections, over time
* `inForce` — what was set last
* `IsDue` — a section that ends has to be reported

## Main results

* `Section.isReported_iff` — the end of a section reaches every threshold that is given
* `Timekeeper.settings_run` — the settings are those that were set last
* `Timekeeper.run_ended` — what the end of a section reports
-/

namespace KernelBridge.Tracing

/-- The end of a section is reported iff sections are reported at all and it lasted as long as
its own threshold and the one for all sections ask. -/
theorem Section.isReported_iff {timed : Section} {settings : Performance} {elapsed : UInt64} :
    timed.isReported settings elapsed = true ↔
      settings.enabled = true ∧ (∀ own ∈ timed.threshold, own ≤ elapsed) ∧
        ∀ common ∈ settings.threshold?, common ≤ elapsed := by
  have hmax (own common : UInt64) :
      max own common ≤ elapsed ↔ own ≤ elapsed ∧ common ≤ elapsed := by
    simp only [UInt64.le_iff_toNat_le, UInt64.toNat_max, Nat.max_le]
  unfold isReported deciding?
  cases timed.threshold <;> cases settings.threshold? <;> simp [hmax]

/-- What happens in a process, as far as timed sections are concerned. -/
inductive Occurrence where
  /-- New settings for all sections. -/
  | set (enabled : Bool) (threshold : Option UInt64)
  | began (timed : Section)
  /-- The end of the section at a place among the running ones, some microseconds after its
  beginning. -/
  | ended (place elapsed : Nat)
  deriving DecidableEq, Repr

/-- The switch and the threshold that new settings ask for. -/
def Occurrence.asked? : Occurrence → Option (Bool × Option UInt64)
  | set enabled threshold => some (enabled, threshold)
  | _ => none

/-- The switch and the threshold that were set last. A process begins with the switch on and
without a threshold. -/
def inForce (occurrences : List Occurrence) : Bool × Option UInt64 :=
  (occurrences.filterMap Occurrence.asked?).getLast?.getD (true, none)

theorem inForce_concat (before : List Occurrence) (occurrence : Occurrence) :
    inForce (before ++ [occurrence]) = occurrence.asked?.getD (inForce before) := by
  cases hasked : occurrence.asked? <;> simp [inForce, List.filterMap_append, hasked]

/-- Microseconds are counted in 64 bits. -/
def microseconds (elapsed : Nat) : UInt64 := .ofNat elapsed

/-- A section that ends has to be reported. -/
@[mk_iff]
structure IsDue (before : List Occurrence) (timed : Section) (elapsed : Nat) : Prop where
  enabled : (inForce before).1 = true
  own : ∀ threshold ∈ timed.threshold, threshold.toNat ≤ elapsed % UInt64.size
  /-- As a threshold for all sections, the largest number asks for nothing. -/
  common : ∀ threshold ∈ (inForce before).2, threshold ≠ noThreshold →
    threshold.toNat ≤ elapsed % UInt64.size

/-- The settings for all sections, and the sections that run in the order in which they began. -/
structure Timekeeper where
  settings : Performance := {}
  running : List Section := []

namespace Timekeeper

/-- What becomes of the settings and the running sections, and what is reported. -/
def step (keeper : Timekeeper) : Occurrence → Timekeeper × List Event
  | .set enabled threshold => ({ keeper with settings := .set enabled threshold }, [])
  | .began timed => ({ keeper with running := keeper.running ++ [timed] }, [timed.opened])
  | .ended place elapsed =>
    match keeper.running[place]? with
    | some timed =>
      ({ keeper with running := keeper.running.eraseIdx place },
        timed.closing keeper.settings (microseconds elapsed))
    | none => (keeper, [])

/-- One occurrence after the other. -/
def run (keeper : Timekeeper) : List Occurrence → Timekeeper × List Event
  | [] => (keeper, [])
  | occurrence :: rest =>
    let (next, events) := keeper.step occurrence
    ((next.run rest).1, events ++ (next.run rest).2)

variable {keeper : Timekeeper} {before : List Occurrence} {timed : Section} {place elapsed : Nat}

theorem run_append (after : List Occurrence) :
    keeper.run (before ++ after) =
      (((keeper.run before).1.run after).1,
        (keeper.run before).2 ++ ((keeper.run before).1.run after).2) := by
  induction before generalizing keeper with
  | nil => rfl
  | cons occurrence rest ih =>
    rw [List.cons_append, run, run]
    simp only [ih, List.append_assoc]

theorem run_concat (occurrence : Occurrence) :
    keeper.run (before ++ [occurrence]) =
      (((keeper.run before).1.step occurrence).1,
        (keeper.run before).2 ++ ((keeper.run before).1.step occurrence).2) := by
  rw [run_append]
  simp only [run, List.append_nil]

theorem settings_step (occurrence : Occurrence) :
    (keeper.step occurrence).1.settings =
      (occurrence.asked?.map fun asked => .set asked.1 asked.2).getD keeper.settings := by
  cases occurrence with
  | set enabled threshold => rfl
  | began timed => rfl
  | ended place elapsed =>
    simp only [step, Occurrence.asked?]
    split <;> rfl

/-- The settings are those that were set last. -/
theorem settings_run (occurrences : List Occurrence) :
    (run {} occurrences).1.settings = .set (inForce occurrences).1 (inForce occurrences).2 := by
  induction occurrences using List.reverseRecOn with
  | nil => rfl
  | append_singleton before occurrence ih =>
    rw [run_concat, settings_step, ih, inForce_concat]
    cases occurrence.asked? <;> rfl

/-- What the settings that were set last ask of a section that ends. -/
theorem isReported_iff_isDue :
    timed.isReported (run {} before).1.settings (microseconds elapsed) = true ↔
      IsDue before timed elapsed := by
  have hcount : (microseconds elapsed).toNat = elapsed % UInt64.size := UInt64.toNat_ofNat'
  rw [settings_run, Section.isReported_iff, Performance.threshold?_set, isDue_iff]
  simp only [UInt64.le_iff_toNat_le, hcount, Performance.set, Option.mem_def,
    Option.filter_eq_some_iff, bne_iff_ne, and_imp]

/-- **What the end of a section reports.** Whatever was set while sections began and ended, a
section is reported at its end iff at that moment reports are on and the section lasted as long as
its own threshold and the one for all sections ask. The largest number asks for nothing if it is
set for all sections, and microseconds are counted modulo `2 ^ 64`. -/
theorem run_ended (before : List Occurrence) (place : Nat) (timed : Section)
    (running : (run {} before).1.running[place]? = some timed) (elapsed : Nat) :
    (IsDue before timed elapsed →
      (run {} (before ++ [.ended place elapsed])).2 = (run {} before).2 ++ [.sectionComplete]) ∧
    (¬ IsDue before timed elapsed →
      (run {} (before ++ [.ended place elapsed])).2 = (run {} before).2) := by
  have hstep : (run {} (before ++ [.ended place elapsed])).2 = (run {} before).2 ++
      timed.closing (run {} before).1.settings (microseconds elapsed) := by
    rw [run_concat]
    simp only [step, running]
  rw [hstep, Section.closing]
  constructor
  · intro hdue
    rw [if_pos (isReported_iff_isDue.mpr hdue)]
  · intro hdue
    rw [if_neg (mt isReported_iff_isDue.mp hdue), List.append_nil]

/-- A section begins under no threshold and ends under one that it misses. -/
theorem run_ended_below_later_threshold :
    (run {} [.began { name := "copy", threshold := some 10 }, .set true (some 500)]).1.running[0]? =
        some { name := "copy", threshold := some 10 } ∧
      (run {} [.began { name := "copy", threshold := some 10 }, .set true (some 500),
        .ended 0 499]).2 = [.sectionOpened .debug "copy" []] :=
  ⟨rfl, (run_ended [.began { name := "copy", threshold := some 10 }, .set true (some 500)] 0
    { name := "copy", threshold := some 10 } rfl 499).2 fun hdue =>
      absurd (hdue.common 500 rfl (by decide)) (by decide)⟩

/-- A threshold for all sections that no section can reach stops no report, and a section of
`2 ^ 64` microseconds misses a threshold of one. -/
theorem run_ended_at_the_limits :
    (inForce [.set true (some noThreshold), .began { name := "copy" }] =
        (true, some noThreshold) ∧
      ¬ noThreshold.toNat ≤ 3 ∧
      (run {} [.set true (some noThreshold), .began { name := "copy" }, .ended 0 3]).2 =
        [.sectionOpened .debug "copy" [], .sectionComplete]) ∧
    (run {} [.began { name := "copy", threshold := some 1 }, .ended 0 UInt64.size]).2 =
      [.sectionOpened .debug "copy" []] := by
  refine ⟨⟨rfl, by decide, rfl⟩, rfl⟩

end Timekeeper

end KernelBridge.Tracing
