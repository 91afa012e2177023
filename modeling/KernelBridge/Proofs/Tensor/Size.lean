import Mathlib.Algebra.BigOperators.Group.List.Lemmas
import Mathlib.Data.List.Infix
import KernelBridge.Tensor.View

/-!
# Sizes of views

The number of elements is multiplied up from the first extent on, and the loop ends with the
limit as soon as a product is above it. An extent that counts as zero makes a tensor empty, but
one that stands behind such a product is never reached. So the sizes are the products, up to the
limit, unless a shape has a zero that comes too late, and only such a shape makes a size depend
on the order of the dimensions.

## Main definitions

* `Shape.extents`, `Shape.count` — the extents as sizes, and the number of places in a shape
* `Shape.Overflows` — a product of leading extents is above the limit
* `Shape.HasLateZero` — an empty shape whose leading extents are too large

## Main results

* `BufferView.elements_of_overflows`, `BufferView.elements_of_fits` — how the loop ends
* `BufferView.sizes_iff_not_hasLateZero` — the shapes whose sizes are right
-/

namespace KernelBridge

namespace Shape

/-- The extents as sizes: a negative one counts as zero. -/
def extents (shape : List Int64) : List Nat := shape.map fun extent => extent.toInt.toNat

/-- The number of places in a shape, whatever the limit is. -/
def count (shape : List Int64) : Nat := (extents shape).prod

/-- A product of leading extents is above the limit. -/
def Overflows (shape : List Int64) : Prop :=
  ∃ leading, leading <+: extents shape ∧ sizeLimit < leading.prod

/-- The shape is empty, but only by an extent behind leading ones whose product is above the
limit. -/
structure HasLateZero (shape : List Int64) : Prop where
  empty : count shape = 0
  overflows : Overflows shape

instance (shape : List Int64) : Decidable (Overflows shape) :=
  decidable_of_iff (∃ leading ∈ (extents shape).inits, sizeLimit < leading.prod)
    (exists_congr fun _ => and_congr_left' (List.mem_inits _ _))

instance (shape : List Int64) : Decidable (HasLateZero shape) :=
  decidable_of_iff (count shape = 0 ∧ Overflows shape) ⟨fun h => ⟨h.1, h.2⟩, fun h => ⟨h.1, h.2⟩⟩

variable {shape : List Int64}

theorem count_le_of_not_overflows (h : ¬ Overflows shape) : count shape ≤ sizeLimit :=
  not_lt.mp fun above => h ⟨extents shape, List.prefix_rfl, above⟩

/-- A shape that is not empty has at least as many places as its leading extents. -/
theorem lt_count_of_overflows (h : Overflows shape) (some : count shape ≠ 0) :
    sizeLimit < count shape := by
  obtain ⟨leading, ⟨rest, hrest⟩, above⟩ := h
  have hcount : count shape = leading.prod * rest.prod := by
    rw [count, ← hrest, List.prod_append]
  have hpos : 0 < rest.prod := by
    refine Nat.pos_of_ne_zero fun hzero => some ?_
    rw [hcount, hzero, Nat.mul_zero]
  rw [hcount]
  exact above.trans_le (Nat.le_mul_of_pos_right _ hpos)

theorem count_perm {other : List Int64} (h : shape.Perm other) : count shape = count other :=
  (h.map _).prod_eq

end Shape

theorem timesWithin_eq_some_iff {size factor n : Nat} :
    timesWithin size factor = some n ↔ n = size * factor ∧ size * factor ≤ sizeLimit := by
  unfold timesWithin
  split <;> simp [*, eq_comm]

/-- The loop reaches the end of the extents iff no product on the way is above the limit. -/
theorem foldlM_timesWithin_eq_some_iff {size n : Nat} {extents : List Nat} :
    extents.foldlM timesWithin size = some n ↔
      n = size * extents.prod ∧
        ∀ leading, leading <+: extents → leading ≠ [] → size * leading.prod ≤ sizeLimit := by
  induction extents generalizing size with
  | nil => simp [eq_comm]
  | cons extent rest ih =>
    simp only [List.foldlM_cons, Option.bind_eq_bind, Option.bind_eq_some_iff,
      timesWithin_eq_some_iff, ih, List.prod_cons, ← Nat.mul_assoc]
    constructor
    · rintro ⟨_, ⟨rfl, hfirst⟩, rfl, hrest⟩
      refine ⟨rfl, fun leading hleading hsome => ?_⟩
      obtain rfl | ⟨tail, rfl, htail⟩ := List.prefix_cons_iff.mp hleading
      · exact absurd rfl hsome
      · rw [List.prod_cons, ← Nat.mul_assoc]
        by_cases hempty : tail = []
        · simpa [hempty] using hfirst
        · exact hrest tail htail hempty
    · rintro ⟨rfl, hall⟩
      have hfirst : size * extent ≤ sizeLimit := by
        simpa using hall [extent] ⟨rest, rfl⟩ (by simp)
      refine ⟨_, ⟨rfl, hfirst⟩, rfl, fun leading hleading _ => ?_⟩
      rw [Nat.mul_assoc, ← List.prod_cons]
      exact hall _ (List.cons_prefix_cons.mpr ⟨rfl, hleading⟩) (by simp)

namespace BufferView

open Shape

variable {view : BufferView}

theorem elements_eq_foldlM (view : BufferView) :
    view.elements = ((extents view.shape).foldlM timesWithin 1).getD sizeLimit := by
  rw [elements, extents, List.foldlM_map]

theorem elements_of_fits (h : ¬ Overflows view.shape) : view.elements = count view.shape := by
  have hend : (extents view.shape).foldlM timesWithin 1 = some (count view.shape) := by
    refine foldlM_timesWithin_eq_some_iff.mpr ⟨(Nat.one_mul _).symm, fun leading hleading _ => ?_⟩
    rw [Nat.one_mul]
    exact not_lt.mp fun above => h ⟨leading, hleading, above⟩
  rw [elements_eq_foldlM, hend, Option.getD_some]

theorem elements_of_overflows (h : Overflows view.shape) : view.elements = sizeLimit := by
  obtain ⟨leading, hleading, above⟩ := h
  have hend : (extents view.shape).foldlM timesWithin 1 = none := by
    refine Option.eq_none_iff_forall_ne_some.mpr fun n hn => ?_
    have hsome : leading ≠ [] := by
      rintro rfl
      exact absurd above (by decide)
    have hwithin := (foldlM_timesWithin_eq_some_iff.mp hn).2 leading hleading hsome
    rw [Nat.one_mul] at hwithin
    exact absurd above (not_lt.mpr hwithin)
  rw [elements_eq_foldlM, hend, Option.getD_none]

/-- The limit is no smaller in bytes than in elements. -/
theorem bytes_of_elements_eq_sizeLimit (h : view.elements = sizeLimit) :
    view.bytes = sizeLimit := by
  rw [bytes, h]
  exact Nat.min_eq_right (Nat.le_mul_of_pos_right _ view.type.bytes_pos)

/-- Without a late zero the sizes are the products, up to the limit. -/
theorem sizes_of_not_hasLateZero (h : ¬ HasLateZero view.shape) :
    view.elements = min (count view.shape) sizeLimit ∧
      view.bytes = min (count view.shape * view.type.bytes) sizeLimit := by
  by_cases hover : Overflows view.shape
  · have habove := lt_count_of_overflows hover fun hempty => h ⟨hempty, hover⟩
    have helements := elements_of_overflows hover
    refine ⟨by rw [helements, Nat.min_eq_right habove.le], ?_⟩
    rw [bytes_of_elements_eq_sizeLimit helements, Nat.min_eq_right]
    exact habove.le.trans (Nat.le_mul_of_pos_right _ view.type.bytes_pos)
  · have helements := elements_of_fits hover
    exact ⟨by rw [helements, Nat.min_eq_left (count_le_of_not_overflows hover)],
      by rw [bytes, helements]⟩

theorem sizes_of_hasLateZero (h : HasLateZero view.shape) :
    view.elements = sizeLimit ∧ view.bytes = sizeLimit :=
  have helements := elements_of_overflows h.overflows
  ⟨helements, bytes_of_elements_eq_sizeLimit helements⟩

/-- **Sizes of a view.** The number of elements and the number of bytes are the products of all
extents, up to the limit, unless the shape has a late zero: then both are the limit, and ought to
be zero. Of two orders of the same dimensions, both give the same sizes unless one of them alone
has a late zero. -/
theorem sizes_iff_not_hasLateZero (view : BufferView) :
    (view.elements = min (count view.shape) sizeLimit ↔ ¬ HasLateZero view.shape) ∧
      (view.bytes = min (count view.shape * view.type.bytes) sizeLimit ↔
        ¬ HasLateZero view.shape) ∧
      (HasLateZero view.shape →
        count view.shape = 0 ∧ view.elements = sizeLimit ∧ view.bytes = sizeLimit) ∧
      ∀ other : BufferView, view.shape.Perm other.shape →
        (view.elements = other.elements ↔ (HasLateZero view.shape ↔ HasLateZero other.shape)) ∧
          (view.type = other.type →
            (view.bytes = other.bytes ↔ (HasLateZero view.shape ↔ HasLateZero other.shape))) := by
  have hlimit : 0 ≠ sizeLimit := by decide
  refine ⟨⟨fun heq late => ?_, fun h => (sizes_of_not_hasLateZero h).1⟩,
    ⟨fun heq late => ?_, fun h => (sizes_of_not_hasLateZero h).2⟩,
    fun late => ⟨late.empty, sizes_of_hasLateZero late⟩, fun other hperm => ?_⟩
  · rw [(sizes_of_hasLateZero late).1, late.empty, Nat.zero_min] at heq
    exact hlimit heq.symm
  · rw [(sizes_of_hasLateZero late).2, late.empty, Nat.zero_mul, Nat.zero_min] at heq
    exact hlimit heq.symm
  · -- Both shapes have the same number of places, so only a late zero sets them apart.
    have hcount := count_perm hperm
    by_cases hview : HasLateZero view.shape <;> by_cases hother : HasLateZero other.shape
    · simp [hview, hother, sizes_of_hasLateZero hview, sizes_of_hasLateZero hother]
    · have hempty := hview.empty
      simp [hview, hother, sizes_of_hasLateZero hview, sizes_of_not_hasLateZero hother, ← hcount,
        hempty, hlimit.symm]
    · have hempty := hother.empty
      simp [hview, hother, sizes_of_hasLateZero hother, sizes_of_not_hasLateZero hview, hcount,
        hempty, hlimit]
    · simp +contextual [hview, hother, sizes_of_not_hasLateZero hview,
        sizes_of_not_hasLateZero hother, hcount]

/-- A negative extent before extents whose product is above the limit, and one behind them. -/
theorem sizes_of_negative_extent :
    let view (shape : List Int64) := wrapHost "x" ⟨.f64, shape, [1, 1, 1], .host, .null⟩
    ((view [-3, 4611686018427387904, 8]).elements = 0 ∧
        (view [-3, 4611686018427387904, 8]).bytes = 0) ∧
      ((view [4611686018427387904, 8, -3]).elements = sizeLimit ∧
        (view [4611686018427387904, 8, -3]).bytes = sizeLimit) ∧
      (view [-3, 4611686018427387904, 8]).elements ≠
        (view [4611686018427387904, 8, -3]).elements := by
  intro view
  obtain ⟨helements, hbytes, -, hreordered⟩ :=
    sizes_iff_not_hasLateZero (view [-3, 4611686018427387904, 8])
  have hlate : HasLateZero [4611686018427387904, 8, -3] := by decide
  have htimely : ¬ HasLateZero [-3, 4611686018427387904, 8] := by decide
  have hcount : count [-3, 4611686018427387904, 8] = 0 := by decide
  refine ⟨⟨?_, ?_⟩,
    ((sizes_iff_not_hasLateZero (view [4611686018427387904, 8, -3])).2.2.1 hlate).2, ?_⟩
  · rw [helements.mpr htimely]
    exact congrArg (min · sizeLimit) hcount
  · rw [hbytes.mpr htimely, show count (view [-3, 4611686018427387904, 8]).shape = 0 from hcount,
      Nat.zero_mul, Nat.zero_min]
  · refine (hreordered (view [4611686018427387904, 8, -3]) (by decide)).1.not.mpr ?_
    exact fun hsame => htimely (hsame.mpr hlate)

/-- A tensor without elements that is told to have as many as can be told. With its empty
dimension in front it is told to have none. -/
theorem sizes_of_trailing_zero :
    let view (shape : List Int64) := wrapHost "x" ⟨.f32, shape, [0, 0, 1], .host, .null⟩
    (view [9223372036854775807, 4, 0]).elements ≠
        min (count [9223372036854775807, 4, 0]) sizeLimit ∧
      (view [9223372036854775807, 4, 0]).bytes ≠
        min (count [9223372036854775807, 4, 0] * 4) sizeLimit ∧
      (view [9223372036854775807, 4, 0]).elements ≠
        (view [0, 9223372036854775807, 4]).elements := by
  decide

end BufferView

end KernelBridge
