import DenseMedium.Grid.Voxels
import DenseMedium.Proofs.Grid.Contents
import DenseMedium.Proofs.Lattice.Dimensions

/-!
Empty grids by their dimensions.

Three limits meet when a grid is asked for: each dimension is a positive coordinate, the number of
cells is a size, and the bytes of the cells fit one allocation. The last limit is the narrowest, so
it decides as soon as the dimensions are coordinates.

* `offendingSize_blamed`: the dimension that a refusal names is the first that is no length, or the
  greatest if each of them is one.
* `isAddressable_eq_ok`: the number of bytes is compared in the integers, although the product is
  taken as a size.
* `zeroed_iff_addressable`: which dimensions are accepted, with what grid, and how the others are
  refused. None of the products overflows, and no allocation is too large.
-/

namespace DenseMedium

namespace Dimensions

/-- Whether each dimension is a length and memory can address the voxels. -/
def Addressable (d : Dimensions) : Prop :=
  (∀ n ∈ d.toList, IsLength n) ∧ 36 * d.cellCount ≤ 2 ^ 63 - 1

/-- Whether `n` is the dimension to blame: the first that is no length, or, when each of them is
one, the greatest. -/
def Blamed (d : Dimensions) (n : UInt32) : Prop :=
  FirstNot IsLength n d.toList ∨
    (∀ m ∈ d.toList, IsLength m) ∧ n ∈ d.toList ∧ ∀ m ∈ d.toList, m ≤ n

variable {d : Dimensions}

/-- The cells of an addressable grid can be counted. -/
theorem Addressable.valid (h : d.Addressable) : d.Valid := by
  obtain ⟨lengths, bytes⟩ := h
  simp only [toList, List.forall_mem_cons] at lengths
  obtain ⟨width, height, depth, -⟩ := lengths
  refine ⟨width, height, depth, ?_⟩
  unfold Size.bound
  omega

theorem addressable_iff (h : d.Valid) : d.Addressable ↔ d.cellCount * 36 ≤ Size.maxBytes := by
  obtain ⟨width, height, depth, -⟩ := h
  have lengths : ∀ n ∈ d.toList, IsLength n := by simp [toList, width, height, depth]
  unfold Addressable Size.maxBytes
  rw [and_iff_right lengths]
  omega

end Dimensions

namespace VoxelGrid

open Dimensions

/-! ### The dimension to blame -/

theorem isNone_axisLength? (n : UInt32) :
    (Extent.axisLength? n).isNone = true ↔ ¬ IsLength n := by
  rw [Option.isNone_iff_eq_none]
  constructor
  · intro none length
    have some := Extent.axisLength?_eq_some.mpr ⟨length, rfl⟩
    rw [none] at some
    cases some
  · intro notLength
    cases h : Extent.axisLength? n with
    | none => rfl
    | some c => exact absurd (Extent.axisLength?_eq_some.mp h).1 notLength

theorem toNat_max (a b : UInt32) : (max a b).toNat = max a.toNat b.toNat := by
  change (if a ≤ b then b else a).toNat = _
  split <;> rename_i h <;> rw [UInt32.le_iff_toNat_le] at h <;> omega

theorem offendingSize_blamed (d : Dimensions) : d.Blamed (offendingSize d) := by
  unfold offendingSize
  cases h : d.toList.find? fun n => (Extent.axisLength? n).isNone with
  | some n =>
    obtain ⟨bad, before, after, split, good⟩ := List.find?_eq_some_iff_append.mp h
    refine .inl ⟨before, after, split, ?_, (isNone_axisLength? n).mp bad⟩
    intro m hm
    by_contra notLength
    have found := good m hm
    simp [(isNone_axisLength? m).mpr notLength] at found
  | none =>
    have lengths : ∀ m ∈ d.toList, IsLength m := by
      intro m hm
      by_contra notLength
      exact List.find?_eq_none.mp h m hm ((isNone_axisLength? m).mpr notLength)
    refine .inr ⟨lengths, ?_, ?_⟩
    · simp only [toList, List.mem_cons, List.not_mem_nil, or_false,
        ← UInt32.toNat_inj, toNat_max]
      omega
    · simp only [toList, List.forall_mem_cons, UInt32.le_iff_toNat_le, toNat_max]
      refine ⟨by omega, by omega, by omega, by simp⟩

/-! ### Bytes -/

/-- The bytes of a grid over declared dimensions are compared as they are: a product that is no size
is above the limit. -/
theorem isAddressable_eq_ok {d : Dimensions} (valid : d.Valid) :
    isAddressable d.extent = .ok (decide (d.cellCount * 36 ≤ Size.maxBytes)) := by
  unfold isAddressable
  rw [valid.pointCount_eq_ok, ok_bind, show Cell.width Voxel = 36 from rfl]
  cases h : Size.mul? d.cellCount 36 with
  | some bytes =>
    obtain ⟨-, rfl⟩ := Size.mul?_eq_some.mp h
    rfl
  | none =>
    have large : ¬ d.cellCount * 36 < Size.bound := by
      intro small
      rw [Size.mul?_eq_some.mpr ⟨small, rfl⟩] at h
      cases h
    have above : ¬ d.cellCount * 36 ≤ Size.maxBytes := by
      unfold Size.bound Size.maxBytes at *
      omega
    rw [decide_eq_false above]
    rfl

/-! ### Empty grids -/

theorem zeroed_of_addressable {d : Dimensions} (h : d.Addressable) :
    zeroed d = .ok ⟨d.extent, Array.replicate d.cellCount Voxel.empty⟩ := by
  have valid := h.valid
  have bytes := (addressable_iff valid).mp h
  have room : Size.reserve d.cellCount (Cell.width Voxel) = .ok () := Size.reserve_eq_ok.mpr bytes
  unfold zeroed
  rw [Extent.ofDimensions?_eq_some.mpr ⟨valid, rfl⟩]
  simp only [isAddressable_eq_ok valid, lift_ok, ok_bind, decide_eq_true bytes, if_true, Grid.fill,
    valid.pointCount_eq_ok, room, pure_eq_ok]

theorem zeroed_of_not_addressable {d : Dimensions} (h : ¬ d.Addressable) :
    zeroed d = refuse (.invalidSize (offendingSize d)) := by
  unfold zeroed
  by_cases valid : d.Valid
  · have bytes : ¬ d.cellCount * 36 ≤ Size.maxBytes := fun few => h ((addressable_iff valid).mpr few)
    rw [Extent.ofDimensions?_eq_some.mpr ⟨valid, rfl⟩]
    simp only [isAddressable_eq_ok valid, lift_ok, ok_bind, decide_eq_false bytes,
      Bool.false_eq_true, if_false]
  · rw [Extent.ofDimensions?_eq_none.mpr valid]

/-- **An empty grid is made exactly when memory can address it.** It lies at the origin, has the
dimensions that were asked for, and an empty voxel for each of its points. Every other request is
refused, with the dimension to blame. -/
theorem zeroed_iff_addressable (d : Dimensions) :
    ((∃ g, zeroed d = .ok g) ↔ d.Addressable) ∧
      (∀ g, zeroed d = .ok g → g.extent.minimum = Point.zero ∧ g.dimensions = d ∧
        g.values = Array.replicate d.cellCount Voxel.empty ∧
        ∀ p ∈ g.extent, g.get p = .ok Voxel.empty) ∧
      (¬ d.Addressable → ∃ n, d.Blamed n ∧ zeroed d = refuse (.invalidSize n)) := by
  refine ⟨⟨?_, ?_⟩, ?_, ?_⟩
  · rintro ⟨g, made⟩
    by_contra large
    rw [zeroed_of_not_addressable large] at made
    cases made
  · intro addressable
    exact ⟨_, zeroed_of_addressable addressable⟩
  · intro g made
    by_cases addressable : d.Addressable
    · rw [zeroed_of_addressable addressable] at made
      cases made
      have valid := addressable.valid
      refine ⟨rfl, Extent.dimensions_extent d, rfl, ?_⟩
      intro p hp
      have size : (Array.replicate d.cellCount Voxel.empty).size = d.extent.volume := by
        rw [Array.size_replicate, valid.volume_eq]
      have full : Grid.Full ⟨d.extent, Array.replicate d.cellCount Voxel.empty⟩ :=
        ⟨⟨_, Valid.leastUpperBound d⟩, size, by
          rw [Array.size_replicate]
          exact valid.2.2.2⟩
      have inside := Extent.rank_lt hp
      rw [valid.volume_eq] at inside
      rw [full.get_eq_ok]
      exact ⟨hp, by simp [inside]⟩
    · rw [zeroed_of_not_addressable addressable] at made
      cases made
  · intro large
    exact ⟨_, offendingSize_blamed d, zeroed_of_not_addressable large⟩

end VoxelGrid

end DenseMedium
