import DenseMedium.Proofs.Majorant.Lookup
import DenseMedium.Proofs.Majorant.Reductions

/-!
What the blocks of a built grid cover.

The builder asks whether the edge divides the dimensions of a grid. It divides the least point
toward zero without asking. So the blocks cover an extent of the right shape, but it begins where
the least point is after rounding.

* `Extent.rounded` is that extent. It is the extent of the grid, or covers it, only if nothing was
  rounded.
* `voxelExtent_of_build`: the blocks that the builder has made cover it.
* `build_covers`: the blocks cover the grid if and only if its least point is a multiple of the
  edge. A voxel that lies in a block is bounded by its majorant in either case.
-/

namespace DenseMedium

namespace Coordinate

/-- A number that is divided toward zero and multiplied back lies between zero and itself. -/
theorem tdiv_mul_between {c k : Int} (hk : 0 < k) :
    0 ≤ c.tdiv k * k ∧ c.tdiv k * k ≤ c ∨ c ≤ c.tdiv k * k ∧ c.tdiv k * k ≤ 0 := by
  have parts := Int.tmod_add_tdiv_mul c k
  have product {q : Int} (hq : 0 ≤ q) : 0 ≤ q * k := Int.mul_nonneg hq (Int.le_of_lt hk)
  rcases Int.le_total 0 c with hc | hc
  · have rest := Int.tmod_nonneg k hc
    have quotient := product (Int.tdiv_nonneg hc (Int.le_of_lt hk))
    exact .inl ⟨quotient, by omega⟩
  · have hc' := Int.neg_nonneg_of_nonpos hc
    have rest := Int.tmod_nonneg k hc'
    have quotient := product (Int.tdiv_nonneg hc' (Int.le_of_lt hk))
    rw [Int.neg_tmod] at rest
    rw [Int.neg_tdiv, Int.neg_mul] at quotient
    exact .inr ⟨by omega, by omega⟩

theorem tdiv_mul_eq_iff {c k : Int} : c.tdiv k * k = c ↔ k ∣ c :=
  ⟨fun h => ⟨c.tdiv k, by rw [Int.mul_comm, h]⟩, Int.tdiv_mul_cancel⟩

end Coordinate

/-! ### An extent whose least point is rounded -/

namespace Extent

variable {e : Extent} {k : Coordinate}

/-- An extent moved to where its least point is after rounding toward zero to a multiple of `k`. -/
def rounded (e : Extent) (k : Coordinate) : Extent :=
  ⟨⟨Int32.ofInt (e.minimum.x.toInt.tdiv k.toInt * k.toInt),
    Int32.ofInt (e.minimum.y.toInt.tdiv k.toInt * k.toInt),
    Int32.ofInt (e.minimum.z.toInt.tdiv k.toInt * k.toInt)⟩, e.shape⟩

theorem toInt_rounded (hk : 0 < k.toInt) :
    (e.rounded k).minimum.x.toInt = e.minimum.x.toInt.tdiv k.toInt * k.toInt ∧
      (e.rounded k).minimum.y.toInt = e.minimum.y.toInt.tdiv k.toInt * k.toInt ∧
      (e.rounded k).minimum.z.toInt = e.minimum.z.toInt.tdiv k.toInt * k.toInt := by
  have fits (c : Coordinate) : (Int32.ofInt (c.toInt.tdiv k.toInt * k.toInt)).toInt =
      c.toInt.tdiv k.toInt * k.toInt := by
    have between := Coordinate.tdiv_mul_between (c := c.toInt) hk
    obtain ⟨low, high⟩ := Coordinate.fits_toInt c
    exact Coordinate.toInt_ofInt ⟨by omega, by omega⟩
  exact ⟨fits _, fits _, fits _⟩

theorem rounded_eq_iff (hk : 0 < k.toInt) : e.rounded k = e ↔ e.minimum.MultipleOf k := by
  obtain ⟨hx, hy, hz⟩ := toInt_rounded (e := e) hk
  unfold Point.MultipleOf
  rw [Extent.ext_iff, Point.ext_iff, ← Int32.toInt_inj, ← Int32.toInt_inj, ← Int32.toInt_inj, hx,
    hy, hz, Coordinate.tdiv_mul_eq_iff, Coordinate.tdiv_mul_eq_iff, Coordinate.tdiv_mul_eq_iff]
  exact and_iff_left rfl

/-- The greatest point of an extent. -/
theorem exists_last (positive : e.Positive) (bounded : ∃ b, e.leastUpperBound = .ok b) :
    ∃ q : Point, q.x.toInt = e.minimum.x.toInt + e.shape.x.toInt - 1 ∧
      q.y.toInt = e.minimum.y.toInt + e.shape.y.toInt - 1 ∧
      q.z.toInt = e.minimum.z.toInt + e.shape.z.toInt - 1 := by
  obtain ⟨b, hb⟩ := bounded
  obtain ⟨bx, by', bz⟩ := leastUpperBound_eq_ok.mp hb
  obtain ⟨px, py, pz⟩ := positive
  have fits {least length top : Coordinate} (ht : top.toInt = least.toInt + length.toInt)
      (hl : 0 < length.toInt) :
      (Int32.ofInt (least.toInt + length.toInt - 1)).toInt = least.toInt + length.toInt - 1 := by
    obtain ⟨low, -⟩ := Coordinate.fits_toInt least
    obtain ⟨-, high⟩ := Coordinate.fits_toInt top
    exact Coordinate.toInt_ofInt ⟨by omega, by omega⟩
  exact ⟨⟨_, _, _⟩, fits bx px, fits by' py, fits bz pz⟩

/-- Two boxes of one shape contain one another only if they are equal. -/
theorem covers_iff {v : Extent} (shape : v.shape = e.shape) (positive : e.Positive)
    (bounded : ∃ b, e.leastUpperBound = .ok b) : (∀ p ∈ e, p ∈ v) ↔ v = e := by
  refine ⟨fun covers => ?_, fun same p hp => same ▸ hp⟩
  obtain ⟨q, qx, qy, qz⟩ := exists_last positive bounded
  obtain ⟨px, py, pz⟩ := positive
  -- The two extreme corners of `e` pin the least point of `v` down.
  have first : e.minimum ∈ v :=
    covers _ ⟨⟨by omega, by omega⟩, ⟨by omega, by omega⟩, ⟨by omega, by omega⟩⟩
  have last : q ∈ v :=
    covers _ ⟨⟨by omega, by omega⟩, ⟨by omega, by omega⟩, ⟨by omega, by omega⟩⟩
  obtain ⟨⟨_, _⟩, ⟨_, _⟩, ⟨_, _⟩⟩ := first
  obtain ⟨⟨_, x⟩, ⟨_, y⟩, ⟨_, z⟩⟩ := last
  rw [shape] at x y z
  exact Extent.ext (Point.ext (Coordinate.eq_of_toInt (by omega))
    (Coordinate.eq_of_toInt (by omega)) (Coordinate.eq_of_toInt (by omega))) shape

end Extent

/-! ### The extent that the builder covers -/

namespace Majorant

variable {g : VoxelGrid} {s : UInt32} {sv : SupervoxelGrid}

/-- An extent without an untileable axis has lengths that the edge divides. -/
theorem multipleOf_of_tileable {e : Extent} {k : Coordinate} (hk : 0 < k.toInt)
    (h : e.untileableAxis k = .ok none) : e.shape.MultipleOf k := by
  unfold Extent.untileableAxis Point.firstAxisNotMultipleOf at h
  simp only [Axis.all, Point.firstNonMultiple, Point.component, Coordinate.isMultiple_of_pos hk,
    ok_bind, decide_eq_true_eq] at h
  split at h
  · rename_i hx
    split at h
    · rename_i hy
      split at h
      · rename_i hz
        exact ⟨hx, hy, hz⟩
      · cases h
    · cases h
  · cases h

/-- What the builder does before it reduces a block: it finds an edge that divides the dimensions,
and the extent of the blocks. -/
theorem blockGrid_of_build (h : build g s = .ok sv) :
    0 < sv.edge.toInt ∧ g.extent.shape.MultipleOf sv.edge ∧
      blockGrid g.extent sv.edge = .ok sv.majorants.extent := by
  obtain ⟨rfl, edge_pos, tileable, hblocks, -⟩ := steps_of_build h
  exact ⟨edge_pos, multipleOf_of_tileable edge_pos tileable, hblocks⟩

/-- The blocks of a grid of blocks cover the extent that it was made of, moved to where the builder
begins. -/
theorem voxelExtent_of_blockGrid {e : Extent} (edge : 0 < sv.edge.toInt)
    (lengths : e.shape.MultipleOf sv.edge) (blocks : blockGrid e sv.edge = .ok sv.majorants.extent) :
    sv.voxelExtent = .ok (e.rounded sv.edge) := by
  obtain ⟨mx, my, mz⟩ := lengths
  obtain ⟨⟨lx, ly, lz⟩, sx, sy, sz⟩ := Extent.toInt_blockGrid edge blocks
  rw [SupervoxelGrid.voxelExtent_eq_ok, Point.scale_eq_ok, Point.scale_eq_ok, sx, sy, sz, lx, ly,
    lz]
  exact ⟨Extent.toInt_rounded edge, (Int.tdiv_mul_cancel mx).symm, (Int.tdiv_mul_cancel my).symm,
    (Int.tdiv_mul_cancel mz).symm⟩

theorem voxelExtent_of_build (h : build g s = .ok sv) :
    sv.voxelExtent = .ok (g.extent.rounded sv.edge) := by
  obtain ⟨edge, lengths, blocks⟩ := blockGrid_of_build h
  exact voxelExtent_of_blockGrid edge lengths blocks

/-- The voxels that lie in a block of a built grid. -/
theorem mem_block_iff (h : build g s = .ok sv) {p : Point} :
    (∃ b ∈ sv.majorants.extent, ∃ region, sv.blockExtent b = .ok region ∧ p ∈ region) ↔
      p ∈ g.extent.rounded sv.edge := by
  obtain ⟨edge, -, -⟩ := blockGrid_of_build h
  have voxels := voxelExtent_of_build h
  constructor
  · rintro ⟨b, hb, region, hregion, hp⟩
    rw [SupervoxelGrid.mem_voxelExtent edge voxels,
      (SupervoxelGrid.mem_blockExtent edge hregion).mp hp]
    exact hb
  · intro hp
    exact ⟨_, (SupervoxelGrid.mem_voxelExtent edge voxels).mp hp,
      SupervoxelGrid.blockExtent_quotient edge voxels hp⟩

/-- The majorant of a block bounds the extinction of each voxel that lies in the block. -/
theorem le_majorant_of_mem (hg : g.Complete) (h : build g s = .ok sv) {b p : Point}
    {region : Extent} (hb : b ∈ sv.majorants.extent) (hregion : sv.blockExtent b = .ok region)
    (hp : p ∈ g.extent) (hpb : p ∈ region) : ∃ v m, g.get p = .ok v ∧ sv.majorants.get b = .ok m ∧
      ∀ channel ∈ Rgb.channels, (channel v.sigmaT).isNaN = false →
        (channel v.sigmaT).le (channel m) = true := by
  have made := made_of_build hg.positive.nonnegative hg.bounded h
  obtain ⟨top, htop⟩ := hg.bounded
  obtain ⟨region', m, hregion', hm, hmajorant⟩ := made.exists_region hb
  cases hregion.symm.trans hregion'
  refine ⟨_, m, Grid.get_eq_valueAt hg hp, hm, fun channel hc number => ?_⟩
  rw [eq_maximum_of_blockMajorant hg.full hmajorant]
  refine (Rgb.isMaximum_channel hc _).bound _ ?_ number
  exact List.mem_map_of_mem (List.mem_map_of_mem ((Extent.mem_shared htop).mpr ⟨hp, hpb⟩))

/-- What the blocks of a built grid cover. They cover the voxels of the grid, and no others, if and
only if the least point of the grid is a multiple of the block size; else some voxel lies in no
block. A block bounds the voxels of the grid that it holds, wherever the grid lies. -/
theorem build_covers (positive : g.extent.Positive)
    (counted : g.extent.pointCount = .ok g.values.size)
    (bounded : ∃ b, g.extent.leastUpperBound = .ok b) (built : build g s = .ok sv) :
    (sv.voxelExtent = .ok g.extent ↔ g.extent.minimum.MultipleOf sv.edge) ∧
      ((∀ p ∈ g.extent, ∃ b ∈ sv.majorants.extent, ∃ region, sv.blockExtent b = .ok region ∧
        p ∈ region) ↔ g.extent.minimum.MultipleOf sv.edge) ∧
      ∀ p ∈ g.extent, ∀ b ∈ sv.majorants.extent, ∀ region, sv.blockExtent b = .ok region →
        p ∈ region → ∃ v m, g.get p = .ok v ∧ sv.majorants.get b = .ok m ∧
          ∀ channel ∈ Rgb.channels, (channel v.sigmaT).isNaN = false →
            (channel v.sigmaT).le (channel m) = true := by
  obtain ⟨few, size⟩ := positive.pointCount_eq_ok.mp counted
  have complete : g.Complete := ⟨positive, bounded, size, size ▸ few⟩
  obtain ⟨edge, -, -⟩ := blockGrid_of_build built
  refine ⟨?_, ?_, fun p hp b hb region hregion => le_majorant_of_mem complete built hb hregion hp⟩
  · rw [voxelExtent_of_build built, Except.ok.injEq, Extent.rounded_eq_iff edge]
  · simp only [mem_block_iff built]
    rw [← Extent.rounded_eq_iff edge]
    exact Extent.covers_iff rfl positive bounded

/-- A grid below the origin whose least point is a multiple of the edge. -/
theorem build_covers_below_origin :
    let g : VoxelGrid := ⟨⟨⟨-4, 0, 2⟩, ⟨4, 2, 2⟩⟩, twoCubes.values⟩
    (g.extent.Positive ∧ g.extent.pointCount = .ok g.values.size ∧
      ∃ b, g.extent.leastUpperBound = .ok b) ∧
      ∃ sv, build g 2 = .ok sv ∧ sv.voxelExtent = .ok g.extent ∧
        ∀ p ∈ g.extent, ∃ b ∈ sv.majorants.extent, ∃ region, sv.blockExtent b = .ok region ∧
          p ∈ region ∧ ∃ v m, g.get p = .ok v ∧ sv.majorants.get b = .ok m ∧
            (v.sigmaT.r.isNaN = false → v.sigmaT.r.le m.r = true) := by
  intro g
  have positive : g.extent.Positive := ⟨by decide, by decide, by decide⟩
  have counted : g.extent.pointCount = .ok g.values.size := by decide
  have bounded : ∃ b, g.extent.leastUpperBound = .ok b := ⟨⟨0, 2, 4⟩, by decide⟩
  refine ⟨⟨positive, counted, bounded⟩, ?_⟩
  have size : (build g 2).map SupervoxelGrid.blockSize = .ok 2 := by decide +kernel
  cases built : build g 2 with
  | error x =>
    rw [built] at size
    cases size
  | ok sv =>
    rw [built] at size
    have edge : sv.edge = 2 := congrArg UInt32.toInt32 (Except.ok.inj size)
    obtain ⟨extent, covered, bounds⟩ := build_covers positive counted bounded built
    have aligned : g.extent.minimum.MultipleOf sv.edge := by
      rw [edge]
      exact ⟨⟨-2, rfl⟩, ⟨0, rfl⟩, ⟨1, rfl⟩⟩
    refine ⟨sv, rfl, extent.mpr aligned, fun p hp => ?_⟩
    obtain ⟨b, hb, region, hregion, hpb⟩ := covered.mpr aligned p hp
    obtain ⟨v, m, hv, hm, channels⟩ := bounds p hp b hb region hregion hpb
    exact ⟨b, hb, region, hregion, hpb, v, m, hv, hm, channels Rgb.r List.mem_cons_self⟩

/-- A grid whose least point is no multiple of the edge. The builder accepts it, and the blocks
cover another extent: the voxels with `x = 2` lie in none of them. -/
theorem build_covers_another_extent :
    let g : VoxelGrid := ⟨⟨⟨1, 0, 0⟩, ⟨2, 2, 2⟩⟩, ⟨twoCubes.values.toList.take 8⟩⟩
    g.extent.Positive ∧ g.extent.pointCount = .ok g.values.size ∧ ⟨2, 0, 0⟩ ∈ g.extent ∧
      (build g 2 >>= fun sv => sv.voxelExtent) = .ok ⟨⟨0, 0, 0⟩, ⟨2, 2, 2⟩⟩ ∧
      (⟨⟨0, 0, 0⟩, ⟨2, 2, 2⟩⟩ : Extent) ≠ g.extent ∧
      ⟨2, 0, 0⟩ ∉ (⟨⟨0, 0, 0⟩, ⟨2, 2, 2⟩⟩ : Extent) := by
  intro g
  exact ⟨⟨by decide, by decide, by decide⟩, by decide, by decide, by decide +kernel, by decide,
    by decide⟩

end Majorant

end DenseMedium
