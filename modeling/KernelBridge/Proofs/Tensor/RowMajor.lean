import Mathlib.Algebra.BigOperators.Ring.Finset
import Mathlib.Data.List.Forall2
import KernelBridge.Proofs.Tensor.Size

/-!
# Row-major order

A multi-index names a place in a shape by one coordinate for each dimension. Its row-major rank
counts the places before it, the last coordinate changing fastest, and the strides of a tensor say
where the element at that place lies. The loop over the dimensions of a tensor compares each
stride with the number of places in the dimensions behind it. It accepts exactly the tensors whose
elements all lie at their ranks.

## Main definitions

* `Shape.IsWithin`, `Shape.indices` — the multi-indices within a shape, one and all of them
* `Shape.IsLexicographic` — a list of the multi-indices within a shape in lexicographic order
* `Shape.rank`, `Shape.offset` — the row-major rank of a place, and where its element lies
* `Tensor.IsDense` — the elements lie at their ranks

## Main results

* `Shape.map_rank_indices` — in lexicographic order the ranks are 0, 1, 2 and so on
* `isRowMajor_iff` — what the loop over the dimensions accepts
* `Tensor.isContiguous_iff_isDense` — the contiguous tensors
-/

namespace KernelBridge

namespace Shape

/-! ### Places in a shape -/

/-- The multi-index has one coordinate for each extent, and the coordinate is below it. -/
def IsWithin (index extents : List Nat) : Prop := List.Forall₂ (· < ·) index extents

/-- The multi-indices within a shape, the last coordinate changing fastest. -/
def indices : (extents : List Nat) → List (List Nat)
  | [] => [[]]
  | extent :: rest =>
    (List.range extent).flatMap fun coordinate => (indices rest).map (coordinate :: ·)

/-- The list holds every multi-index within the shape once, in lexicographic order. -/
structure IsLexicographic (order : List (List Nat)) (extents : List Nat) : Prop where
  sorted : order.Pairwise (· < ·)
  mem_iff : ∀ index, index ∈ order ↔ IsWithin index extents

/-- The row-major rank of a multi-index: a step in one dimension passes all places in the
dimensions behind it. -/
def rank : (extents index : List Nat) → Nat
  | _ :: rest, coordinate :: index => coordinate * rest.prod + rank rest index
  | _, _ => 0

/-- Where the element at a multi-index lies: each coordinate counts as often as its stride
says. -/
def offset (strides : List Int64) (index : List Nat) : Int :=
  (List.zipWith (fun coordinate stride => (coordinate : Int) * stride.toInt) index strides).sum

theorem isWithin_nil_iff {index : List Nat} : IsWithin index [] ↔ index = [] :=
  List.forall₂_nil_right_iff

theorem isWithin_cons_iff {index : List Nat} {extent : Nat} {rest : List Nat} :
    IsWithin index (extent :: rest) ↔
      ∃ coordinate tail, index = coordinate :: tail ∧ coordinate < extent ∧ IsWithin tail rest := by
  rw [IsWithin, List.forall₂_cons_right_iff]
  constructor
  · rintro ⟨coordinate, tail, hbelow, htail, rfl⟩
    exact ⟨coordinate, tail, rfl, hbelow, htail⟩
  · rintro ⟨coordinate, tail, rfl, hbelow, htail⟩
    exact ⟨coordinate, tail, hbelow, htail, rfl⟩

theorem mem_indices_iff {index extents : List Nat} :
    index ∈ indices extents ↔ IsWithin index extents := by
  induction extents generalizing index with
  | nil => simp [indices, isWithin_nil_iff]
  | cons extent rest ih =>
    simp only [indices, List.mem_flatMap, List.mem_range, List.mem_map, isWithin_cons_iff, ih]
    constructor
    · rintro ⟨coordinate, hbelow, tail, htail, rfl⟩
      exact ⟨coordinate, tail, rfl, hbelow, htail⟩
    · rintro ⟨coordinate, tail, rfl, hbelow, htail⟩
      exact ⟨coordinate, hbelow, tail, htail, rfl⟩

theorem pairwise_indices (extents : List Nat) : (indices extents).Pairwise (· < ·) := by
  induction extents with
  | nil => exact List.pairwise_singleton _ _
  | cons extent rest ih =>
    rw [indices, List.pairwise_flatMap]
    constructor
    · intro coordinate _
      rw [List.pairwise_map]
      exact ih.imp fun h => List.cons_lt_cons_iff.mpr (.inr ⟨rfl, h⟩)
    · refine List.pairwise_lt_range.imp fun hlt one hone other hother => ?_
      obtain ⟨_, -, rfl⟩ := List.mem_map.mp hone
      obtain ⟨_, -, rfl⟩ := List.mem_map.mp hother
      exact List.cons_lt_cons_iff.mpr (.inl hlt)

theorem isLexicographic_indices (extents : List Nat) :
    IsLexicographic (indices extents) extents :=
  ⟨pairwise_indices extents, fun _ => mem_indices_iff⟩

/-! ### Ranks -/

/-- Blocks of one length, laid one behind the other, fill a range. -/
theorem flatMap_range_blocks (blocks length : Nat) :
    (List.range blocks).flatMap (fun block => (List.range length).map (block * length + ·)) =
      List.range (blocks * length) := by
  induction blocks with
  | zero => simp
  | succ blocks ih =>
    rw [List.range_succ, List.flatMap_append, ih, List.flatMap_singleton, Nat.succ_mul,
      List.range_add]

/-- In lexicographic order the ranks are 0, 1, 2 and so on. -/
theorem map_rank_indices (extents : List Nat) :
    (indices extents).map (rank extents) = List.range extents.prod := by
  induction extents with
  | nil => rfl
  | cons extent rest ih =>
    have hblock (coordinate : Nat) :
        ((indices rest).map (coordinate :: ·)).map (rank (extent :: rest)) =
          (List.range rest.prod).map (coordinate * rest.prod + ·) := by
      rw [← ih, List.map_map, List.map_map]
      rfl
    rw [indices, List.map_flatMap, List.prod_cons, ← flatMap_range_blocks]
    simp only [hblock]

theorem offset_cons (stride : Int64) (strides : List Int64) (coordinate : Nat)
    (index : List Nat) :
    offset (stride :: strides) (coordinate :: index) =
      coordinate * stride.toInt + offset strides index := by
  simp [offset]

/-- A shape whose extents are all positive has a place: all coordinates are zero. -/
theorem exists_isWithin {extents : List Nat} (h : ∀ extent ∈ extents, 0 < extent) :
    ∃ index, IsWithin index extents := by
  induction extents with
  | nil => exact ⟨[], .nil⟩
  | cons extent rest ih =>
    obtain ⟨hextent, hrest⟩ := List.forall_mem_cons.mp h
    obtain ⟨index, hindex⟩ := ih hrest
    exact ⟨0 :: index, .cons hextent hindex⟩

/-- A list of strides gives every element its rank iff it does so behind the first dimension,
and the first dimension has one place or a stride that passes all places behind it. -/
theorem forall_offset_cons_iff {stride : Int64} {strides : List Int64} {extent : Nat}
    {rest : List Nat} (hextent : 0 < extent) (hrest : ∀ extent ∈ rest, 0 < extent) :
    (∀ index, IsWithin index (extent :: rest) →
        offset (stride :: strides) index = rank (extent :: rest) index) ↔
      (∀ index, IsWithin index rest → offset strides index = rank rest index) ∧
        (extent = 1 ∨ stride.toInt = rest.prod) := by
  constructor
  · intro h
    have htail : ∀ index, IsWithin index rest → offset strides index = rank rest index := by
      intro index hindex
      have hzero := h (0 :: index) (.cons hextent hindex)
      simpa [offset_cons, rank] using hzero
    refine ⟨htail, or_iff_not_imp_left.mpr fun hone => ?_⟩
    obtain ⟨index, hindex⟩ := exists_isWithin hrest
    have hstep := h (1 :: index) (.cons (by omega) hindex)
    rw [offset_cons, rank, htail index hindex, Nat.cast_add, Nat.cast_mul, Nat.cast_one, one_mul,
      one_mul] at hstep
    exact add_right_cancel hstep
  · rintro ⟨htail, hstride⟩ index hindex
    obtain ⟨coordinate, tail, rfl, hbelow, hwithin⟩ := isWithin_cons_iff.mp hindex
    rw [offset_cons, rank, htail tail hwithin]
    obtain rfl | heq := hstride
    · obtain rfl : coordinate = 0 := by omega
      simp
    · rw [heq]
      push_cast
      rfl

end Shape

/-! ### The loop over the dimensions -/

open Shape

/-- The loop goes on with the product of the extents so far. -/
theorem isRowMajor_concat {expected : Int} {dimensions : List (Int64 × Int64)}
    {extent stride : Int64} :
    isRowMajor expected (dimensions ++ [(extent, stride)]) = true ↔
      isRowMajor expected dimensions = true ∧
        (extent = 1 ∨
          stride.toInt = expected * (dimensions.map fun dimension => dimension.1.toInt).prod) ∧
        fitsInt64 (expected * (dimensions.map fun dimension => dimension.1.toInt).prod *
          extent.toInt) = true := by
  induction dimensions generalizing expected with
  | nil => simp [isRowMajor]
  | cons dimension rest ih =>
    obtain ⟨first, firstStride⟩ := dimension
    rw [List.cons_append, isRowMajor, isRowMajor, Bool.and_eq_true, Bool.and_eq_true,
      Bool.and_eq_true, Bool.and_eq_true, ih]
    simp only [List.map_cons, List.prod_cons, and_assoc, mul_assoc]

/-- One more dimension in front of a tensor is the last one that the loop meets. -/
theorem isRowMajor_reverse_zip_cons {extent stride : Int64} {shape strides : List Int64}
    (hlength : shape.length = strides.length) :
    isRowMajor 1 ((extent :: shape).zip (stride :: strides)).reverse = true ↔
      isRowMajor 1 (shape.zip strides).reverse = true ∧
        (extent = 1 ∨ stride.toInt = (shape.map Int64.toInt).prod) ∧
        fitsInt64 ((extent :: shape).map Int64.toInt).prod = true := by
  have hprod : ((shape.zip strides).reverse.map fun dimension => dimension.1.toInt).prod =
      (shape.map Int64.toInt).prod := by
    have hextents : (shape.zip strides).map (fun dimension => dimension.1.toInt) =
        shape.map Int64.toInt := by
      conv_rhs => rw [← List.map_fst_zip hlength.le, List.map_map]
      rfl
    rw [List.map_reverse, List.prod_reverse, hextents]
  rw [List.zip_cons_cons, List.reverse_cons, isRowMajor_concat, hprod, one_mul, List.map_cons,
    List.prod_cons, mul_comm extent.toInt]

variable {shape strides : List Int64}

theorem extents_pos (h : ∀ extent ∈ shape, 1 ≤ extent.toInt) :
    ∀ extent ∈ extents shape, 0 < extent := by
  intro size hsize
  obtain ⟨extent, hextent, rfl⟩ := List.mem_map.mp hsize
  have hone := h extent hextent
  omega

/-- Without negative extents the number of places is the product of the extents. -/
theorem prod_toInt_eq_count (h : ∀ extent ∈ shape, 1 ≤ extent.toInt) :
    (shape.map Int64.toInt).prod = count shape := by
  rw [count, extents, Nat.cast_list_prod, List.map_map]
  congr 1
  refine List.map_congr_left fun extent hextent => ?_
  have hone := h extent hextent
  exact (Int.toNat_of_nonneg (by omega)).symm

theorem fitsInt64_of_le {small large : Nat} (h : small ≤ large)
    (fits : fitsInt64 large = true) : fitsInt64 small = true := by
  rw [fitsInt64_iff] at fits ⊢
  have hmin : Int64.minValue.toInt ≤ 0 := by decide
  omega

/-- What the loop over the dimensions accepts: for extents that are all positive, the strides
with which every element lies at its rank, if the product of the extents is within 64 bits. -/
theorem isRowMajor_iff (hlength : shape.length = strides.length)
    (hone : ∀ extent ∈ shape, 1 ≤ extent.toInt) :
    isRowMajor 1 (shape.zip strides).reverse = true ↔
      fitsInt64 (shape.map Int64.toInt).prod = true ∧
        ∀ index, IsWithin index (extents shape) →
          offset strides index = rank (extents shape) index := by
  induction shape generalizing strides with
  | nil =>
    obtain rfl : strides = [] := List.length_eq_zero_iff.mp hlength.symm
    refine ⟨fun _ => ⟨by decide, fun index hindex => ?_⟩, fun _ => rfl⟩
    rw [isWithin_nil_iff.mp hindex]
    rfl
  | cons extent shape ih =>
    obtain ⟨stride, strides, rfl⟩ := List.exists_cons_of_length_eq_add_one hlength.symm
    have hlength : shape.length = strides.length := Nat.succ.inj hlength
    obtain ⟨hextent, hshape⟩ := List.forall_mem_cons.mp hone
    have hunit : extent = 1 ↔ extent.toInt.toNat = 1 := by
      rw [← Int64.toInt_inj, show (1 : Int64).toInt = 1 from rfl]
      omega
    have hpos := extents_pos hone _ List.mem_cons_self
    have hplaces := @forall_offset_cons_iff stride strides _ _ hpos (extents_pos hshape)
    -- A product that is within 64 bits has been so behind the first dimension.
    have hfits : fitsInt64 (count (extent :: shape)) = true → fitsInt64 (count shape) = true :=
      fitsInt64_of_le (Nat.le_mul_of_pos_left _ hpos)
    rw [isRowMajor_reverse_zip_cons hlength, ih hlength hshape, prod_toInt_eq_count hshape,
      prod_toInt_eq_count hone, hunit]
    exact ⟨fun ⟨⟨_, htail⟩, hstride, hall⟩ => ⟨hall, hplaces.mpr ⟨htail, hstride⟩⟩,
      fun ⟨hall, hindices⟩ =>
        have ⟨htail, hstride⟩ := hplaces.mp hindices
        ⟨⟨hfits hall, htail⟩, hstride, hall⟩⟩

namespace Tensor

/-- The elements of the tensor lie one behind the other in row-major order, and their number is
within 64 bits. -/
structure IsDense (tensor : Tensor) : Prop where
  fits : fitsInt64 (tensor.shape.map Int64.toInt).prod = true
  offset_eq_rank : ∀ index, IsWithin index (extents tensor.shape) →
    offset tensor.strides index = rank (extents tensor.shape) index

variable {tensor : Tensor}

theorem isContiguous_of_length_ne (h : tensor.shape.length ≠ tensor.strides.length) :
    tensor.isContiguous = false := by
  simp [isContiguous, h]

theorem isContiguous_of_empty (hlength : tensor.shape.length = tensor.strides.length)
    (hempty : 0 ∈ tensor.shape) : tensor.isContiguous = true := by
  simp [isContiguous, hlength, hempty]

theorem isContiguous_iff_isDense (hlength : tensor.shape.length = tensor.strides.length)
    (hone : ∀ extent ∈ tensor.shape, 1 ≤ extent.toInt) :
    tensor.isContiguous = true ↔ tensor.IsDense := by
  have hsome : 0 ∉ tensor.shape := fun hzero => absurd (hone 0 hzero) (by decide)
  have hdense : tensor.IsDense ↔
      fitsInt64 (tensor.shape.map Int64.toInt).prod = true ∧
        ∀ index, IsWithin index (extents tensor.shape) →
          offset tensor.strides index = rank (extents tensor.shape) index :=
    ⟨fun h => ⟨h.fits, h.offset_eq_rank⟩, fun h => ⟨h.1, h.2⟩⟩
  rw [hdense, ← isRowMajor_iff hlength hone]
  simp [isContiguous, dimensions, hlength, hsome]

/-- A view over a dense tensor tells the number of places in its shape. -/
theorem elements_eq_count (hone : ∀ extent ∈ tensor.shape, 1 ≤ extent.toInt)
    (fits : fitsInt64 (tensor.shape.map Int64.toInt).prod = true) {view : BufferView}
    (hshape : view.shape = tensor.shape) : view.elements = count tensor.shape := by
  rw [← hshape]
  refine BufferView.elements_of_fits fun hover => ?_
  rw [hshape] at hover
  rw [prod_toInt_eq_count hone, fitsInt64_iff] at fits
  have hmax : Int64.maxValue.toInt ≤ sizeLimit := by decide
  have hsome : count tensor.shape ≠ 0 := fun hzero =>
    absurd (extents_pos hone 0 (List.prod_eq_zero_iff.mp hzero)) (Nat.lt_irrefl 0)
  have habove := lt_count_of_overflows hover hsome
  omega

/-- **Contiguity is row-major density.** A tensor with another number of strides than extents is
not contiguous, and an empty one with as many is. If all extents are positive, a tensor is
contiguous iff the product of the extents is within 64 bits and every element lies at its rank.
Then the elements at all places of the shape, in lexicographic order, lie at 0, 1, 2 and so on,
up to the number of elements that a view over the tensor tells. -/
theorem isContiguous_iff_rowMajor (tensor : Tensor) :
    (tensor.shape.length ≠ tensor.strides.length → tensor.isContiguous = false) ∧
      (tensor.shape.length = tensor.strides.length → 0 ∈ tensor.shape →
        tensor.isContiguous = true) ∧
      (tensor.shape.length = tensor.strides.length →
        (∀ extent ∈ tensor.shape, 1 ≤ extent.toInt) →
          (tensor.isContiguous = true ↔ tensor.IsDense) ∧
            (tensor.isContiguous = true →
              IsLexicographic (indices (extents tensor.shape)) (extents tensor.shape) ∧
                ∀ name backend, ∀ view ∈
                  [BufferView.wrapHost name tensor, BufferView.wrapDevice name tensor backend],
                  (indices (extents tensor.shape)).map (offset tensor.strides) =
                    (List.range view.elements).map Int.ofNat)) := by
  refine ⟨isContiguous_of_length_ne, isContiguous_of_empty, fun hlength hone =>
    ⟨isContiguous_iff_isDense hlength hone, fun hcontiguous =>
      ⟨isLexicographic_indices _, fun name backend view hview => ?_⟩⟩⟩
  have dense := (isContiguous_iff_isDense hlength hone).mp hcontiguous
  have hshape : view.shape = tensor.shape := by
    rcases List.mem_pair.mp hview with rfl | rfl <;> rfl
  calc (indices (extents tensor.shape)).map (offset tensor.strides)
      = ((indices (extents tensor.shape)).map (rank (extents tensor.shape))).map Int.ofNat := by
        rw [List.map_map]
        exact List.map_congr_left fun index hindex =>
          dense.offset_eq_rank index (mem_indices_iff.mp hindex)
    _ = (List.range (count tensor.shape)).map Int.ofNat := by rw [map_rank_indices, count]
    _ = (List.range view.elements).map Int.ofNat := by
        rw [elements_eq_count hone dense.fits hshape]

/-- A dimension with one place may have a stride that leads anywhere. -/
theorem isContiguous_of_unit_dimension :
    let tensor : Tensor := ⟨.f32, [2, 1, 3], [3, -7, 1], .host, .null⟩
    tensor.IsDense ∧
      (indices (extents tensor.shape)).map (offset tensor.strides) = [0, 1, 2, 3, 4, 5] := by
  intro tensor
  obtain ⟨-, -, hdense⟩ := isContiguous_iff_rowMajor tensor
  have hone : ∀ extent ∈ tensor.shape, 1 ≤ extent.toInt := by
    simp only [tensor, List.forall_mem_cons, List.not_mem_nil, false_imp_iff, implies_true,
      and_true]
    decide
  obtain ⟨hiff, hplaces⟩ := hdense rfl hone
  have hcontiguous : tensor.isContiguous = true := by decide
  exact ⟨hiff.mp hcontiguous,
    (hplaces hcontiguous).2 "x" .cuda _ List.mem_cons_self⟩

end Tensor

end KernelBridge
