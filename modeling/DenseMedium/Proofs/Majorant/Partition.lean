import DenseMedium.Proofs.Lattice.Regions
import DenseMedium.Proofs.Majorant.Lookup

/-!
The blocks of a grid of majorants partition the voxels that the grid covers.

The covered extent is computed from the extent of the blocks, its least point and its lengths each
multiplied by the edge. A block is computed from its own coordinates. The two computations agree:

* `exists_blockExtent`: a block of the grid begins and ends where the covered extent does or between,
  so neither its least point nor its bound overflows when those of the covered extent fit.
* `volume_cube`: a block has the cube of the edge as its number of points.
* `blocks_partition`: each voxel lies in one block of the grid and in no other, and each block holds
  that many voxels and nothing else.
-/

namespace DenseMedium

namespace Extent

variable {e : Extent}

/-- The number of points of a cube. -/
theorem volume_cube {k : Coordinate} (h : e.shape = Point.fill k) : e.volume = k.toInt.toNat ^ 3 := by
  unfold volume width height depth
  rw [h, pow_three]
  rfl

end Extent

/-- A block that is one of `count` from `first` on begins and ends within all of them. -/
theorem Coordinate.block_between {first count b k : Int} (hk : 0 < k) (h : Within first count b) :
    first * k ≤ b * k ∧ b * k + k ≤ first * k + count * k := by
  obtain ⟨low, high⟩ := h
  have next : b * k + k = (b + 1) * k := by rw [Int.add_mul, Int.one_mul]
  rw [next, ← Int.add_mul]
  exact ⟨Int.mul_le_mul_of_nonneg_right low (Int.le_of_lt hk),
    Int.mul_le_mul_of_nonneg_right high (Int.le_of_lt hk)⟩

namespace SupervoxelGrid

variable {sv : SupervoxelGrid} {v region : Extent} {b p t : Point}

theorem toNat_edge (size : 0 < sv.blockSize.toNat ∧ sv.blockSize.toNat < 2 ^ 31) :
    sv.edge.toInt.toNat = sv.blockSize.toNat := by
  have value := Coordinate.toInt_toInt32 (n := sv.blockSize) (by omega)
  unfold edge
  omega

/-- Each block of the grid has an extent, and that extent a bound. -/
theorem exists_blockExtent (edge : 0 < sv.edge.toInt) (voxels : sv.voxelExtent = .ok v)
    (bounded : v.leastUpperBound = .ok t) (hb : b ∈ sv.majorants.extent) :
    ∃ region top, sv.blockExtent b = .ok region ∧ region.leastUpperBound = .ok top := by
  obtain ⟨hleast, hshape⟩ := voxelExtent_eq_ok.mp voxels
  obtain ⟨lx, ly, lz⟩ := Point.scale_eq_ok.mp hleast
  obtain ⟨sx, sy, sz⟩ := Point.scale_eq_ok.mp hshape
  obtain ⟨tx, ty, tz⟩ := Extent.leastUpperBound_eq_ok.mp bounded
  obtain ⟨x, y, z⟩ := Extent.mem_def.mp hb
  have axis {first count least length last c : Coordinate}
      (hl : least.toInt = first.toInt * sv.edge.toInt)
      (hs : length.toInt = count.toInt * sv.edge.toInt)
      (hlast : last.toInt = least.toInt + length.toInt)
      (hc : Within first.toInt count.toInt c.toInt) :
      ∃ start stop : Coordinate, start.toInt = c.toInt * sv.edge.toInt ∧
        stop.toInt = start.toInt + sv.edge.toInt := by
    obtain ⟨after, before⟩ := Coordinate.block_between edge hc
    obtain ⟨low, -⟩ := Coordinate.fits_toInt least
    obtain ⟨-, high⟩ := Coordinate.fits_toInt last
    have start := Coordinate.toInt_ofInt (v := c.toInt * sv.edge.toInt) ⟨by omega, by omega⟩
    have stop := Coordinate.toInt_ofInt (v := c.toInt * sv.edge.toInt + sv.edge.toInt)
      ⟨by omega, by omega⟩
    exact ⟨_, _, start, by rw [stop, start]⟩
  obtain ⟨startX, stopX, hx, hx'⟩ := axis lx sx tx x
  obtain ⟨startY, stopY, hy, hy'⟩ := axis ly sy ty y
  obtain ⟨startZ, stopZ, hz, hz'⟩ := axis lz sz tz z
  have start : b.scale sv.edge = .ok ⟨startX, startY, startZ⟩ :=
    Point.scale_eq_ok.mpr ⟨hx, hy, hz⟩
  exact ⟨⟨⟨startX, startY, startZ⟩, Point.fill sv.edge⟩, ⟨stopX, stopY, stopZ⟩,
    blockExtent_eq_ok.mpr ⟨start, rfl⟩, Extent.leastUpperBound_eq_ok.mpr ⟨hx', hy', hz'⟩⟩

/-- **The blocks partition the covered voxels.** Each voxel that the grid covers lies in exactly one
of its blocks. Each of the blocks lists as many distinct points as the cube of the block size says,
which are the points it contains, and all of them are covered. -/
theorem blocks_partition (size : 0 < sv.blockSize.toNat ∧ sv.blockSize.toNat < 2 ^ 31)
    (voxels : sv.voxelExtent = .ok v) (bounded : v.leastUpperBound = .ok t) :
    (∀ p, v.contains p = .ok true → ∃! b, sv.majorants.extent.contains b = .ok true ∧
        ∃ region, sv.blockExtent b = .ok region ∧ region.contains p = .ok true) ∧
      ∀ b, sv.majorants.extent.contains b = .ok true →
        ∃ region points, sv.blockExtent b = .ok region ∧ region.points = .ok points ∧
          points.Nodup ∧ points.length = sv.blockSize.toNat ^ 3 ∧
          (∀ p, region.contains p = .ok true ↔ p ∈ points) ∧
          ∀ p ∈ points, v.contains p = .ok true := by
  have edge := edge_toInt size
  obtain ⟨last, hlast⟩ := leastUpperBound_majorants edge voxels bounded
  refine ⟨?_, ?_⟩
  · intro p hp
    have covered := (Extent.contains_eq_true bounded).mp hp
    have block := (mem_voxelExtent edge voxels).mp covered
    obtain ⟨region, top, hregion, htop⟩ := exists_blockExtent edge voxels bounded block
    have holds := (mem_blockExtent edge hregion).mpr rfl
    refine ⟨p.quotient sv.edge, ⟨(Extent.contains_eq_true hlast).mpr block, region, hregion,
      (Extent.contains_eq_true htop).mpr holds⟩, ?_⟩
    rintro b ⟨hb, other, hother, hpb⟩
    obtain ⟨_, top', hregion', htop'⟩ :=
      exists_blockExtent edge voxels bounded ((Extent.contains_eq_true hlast).mp hb)
    cases hother.symm.trans hregion'
    exact ((mem_blockExtent edge hother).mp ((Extent.contains_eq_true htop').mp hpb)).symm
  · intro b hb
    have block := (Extent.contains_eq_true hlast).mp hb
    obtain ⟨region, top, hregion, htop⟩ := exists_blockExtent edge voxels bounded block
    refine ⟨region, region.enumerate, hregion, Extent.points_eq_ok htop,
      Extent.enumerate_nodup htop, ?_, ?_, ?_⟩
    · rw [Extent.length_enumerate, Extent.volume_cube (blockExtent_eq_ok.mp hregion).2,
        toNat_edge size]
    · intro p
      rw [Extent.contains_eq_true htop, Extent.mem_enumerate htop]
    · intro p hp
      rw [Extent.contains_eq_true bounded, mem_voxelExtent edge voxels,
        (mem_blockExtent edge hregion).mp ((Extent.mem_enumerate htop).mp hp)]
      exact block

/-- The two blocks of edge two on both sides of the origin. -/
theorem blocks_partition_straddling :
    (0 < straddling.blockSize.toNat ∧ straddling.blockSize.toNat < 2 ^ 31) ∧
      straddling.voxelExtent = .ok ⟨⟨-2, 0, 0⟩, ⟨4, 2, 2⟩⟩ ∧
      (⟨⟨-2, 0, 0⟩, ⟨4, 2, 2⟩⟩ : Extent).leastUpperBound = .ok ⟨2, 2, 2⟩ ∧
      (∃! b, straddling.majorants.extent.contains b = .ok true ∧
        ∃ region, straddling.blockExtent b = .ok region ∧
          region.contains ⟨-1, 0, 1⟩ = .ok true) ∧
      ∃ region points, straddling.blockExtent ⟨-1, 0, 0⟩ = .ok region ∧
        region.points = .ok points ∧ points.Nodup ∧ points.length = 8 := by
  have size : 0 < straddling.blockSize.toNat ∧ straddling.blockSize.toNat < 2 ^ 31 := by decide
  have voxels : straddling.voxelExtent = .ok ⟨⟨-2, 0, 0⟩, ⟨4, 2, 2⟩⟩ := by decide
  have bounded : (⟨⟨-2, 0, 0⟩, ⟨4, 2, 2⟩⟩ : Extent).leastUpperBound = .ok ⟨2, 2, 2⟩ := by decide
  obtain ⟨voxel, block⟩ := blocks_partition size voxels bounded
  obtain ⟨region, points, hregion, hpoints, distinct, count, -⟩ := block ⟨-1, 0, 0⟩ (by decide)
  exact ⟨size, voxels, bounded, voxel ⟨-1, 0, 1⟩ (by decide), region, points, hregion, hpoints,
    distinct, count⟩

end SupervoxelGrid

end DenseMedium
