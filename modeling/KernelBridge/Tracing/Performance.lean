import KernelBridge.Tracing.Event

/-!
# Timed sections

A section of work is reported when it ends, provided that performance tracing is on at
that moment and the section lasted at least as long as its own threshold and the one set
for all sections ask.

## Main definitions

* `Tracing.Performance` — the settings that hold for all sections
* `Tracing.Section` — a section with its own threshold
* `Tracing.Section.closing` — what the end of a section reports
* `Tracing.opening` — what the beginning of a section reports
-/

namespace KernelBridge.Tracing

/-- The largest number of microseconds, which as a threshold for all sections stands for
none. -/
def noThreshold : UInt64 := 0xFFFFFFFFFFFFFFFF

/-- The settings for all sections: one switch, and one word for the threshold. -/
structure Performance where
  enabled : Bool := true
  threshold : UInt64 := noThreshold
  deriving DecidableEq, Repr

namespace Performance

/-- The settings that a switch and an optional threshold ask for. -/
def set (enabled : Bool) (threshold : Option UInt64) : Performance :=
  ⟨enabled, threshold.getD noThreshold⟩

/-- The threshold for all sections, if there is one. -/
def threshold? (settings : Performance) : Option UInt64 :=
  if settings.threshold = noThreshold then none else some settings.threshold

end Performance

/-- A timed section of work. -/
structure Section where
  name : String
  level : Level := .debug
  threshold : Option UInt64 := none
  deriving DecidableEq, Repr

namespace Section

/-- The threshold that decides: the larger one of two, or the only one. -/
def deciding? (timed : Section) (settings : Performance) : Option UInt64 :=
  match timed.threshold, settings.threshold? with
  | some own, some common => some (max own common)
  | some own, none => some own
  | none, common => common

/-- Whether the end of the section is reported, given how long it lasted. -/
def isReported (timed : Section) (settings : Performance) (elapsed : UInt64) : Bool :=
  settings.enabled &&
    match timed.deciding? settings with
    | some threshold => threshold ≤ elapsed
    | none => true

/-- What the beginning of the section reports. -/
def opened (timed : Section) : Event := .sectionOpened timed.level timed.name []

/-- What the end of the section reports. -/
def closing (timed : Section) (settings : Performance) (elapsed : UInt64) : List Event :=
  if timed.isReported settings elapsed then [.sectionComplete] else []

end Section

/-- What the beginning of a section with details reports: the details stand on a span of
their own around the section's. -/
def opening (name : String) (details : List (String × FieldValue)) : List Event :=
  (if details.isEmpty then [] else [.sectionOpened .debug name details])
    ++ [Section.opened { name }]

end KernelBridge.Tracing
