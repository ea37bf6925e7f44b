import DenseMedium.Proofs.Grid.Access
import DenseMedium.Proofs.Lattice.Dimensions
import DenseMedium.Proofs.Majorant.Tiling

/-!
Blocks that hold a voxel, and the block that the look-up of a voxel reaches.

A grid of majorants may begin at any block, so voxels may have negative components. The block that
holds a voxel has the quotients of the voxel, rounded down, as its coordinates, whereas the look-up
divides toward zero.

* `mem_blockExtent`, `mem_voxelExtent`: a block holds the voxels with its quotient, and the blocks
  of a grid hold the voxels whose quotient is one of them.
* `blockExtent_quotient`: every voxel of the covered extent lies in exactly one block of the grid.
* `majorantAtVoxel_spec`: the look-up refuses the other voxels. It reaches the block of a voxel if
  and only if no component of the voxel is negative without being a multiple of the edge.
-/

namespace DenseMedium

/-! ### Quotients, rounded down and toward zero -/

namespace Coordinate

theorem ne_zero_of_pos {k : Coordinate} (hk : 0 < k.toInt) : k ≠ 0 := by
  rintro rfl
  exact absurd hk (by decide)

/-- A quotient that is rounded down fits, whatever the sign of the dividend. -/
theorem toInt_floor {c k : Coordinate} (hk : 0 < k.toInt) :
    (Int32.ofInt (c.toInt / k.toInt)).toInt = c.toInt / k.toInt := by
  obtain ⟨low, high⟩ := fits_toInt c
  have small := Int.natAbs_ediv_le_natAbs c.toInt k.toInt
  have most : c.toInt / k.toInt < 2147483648 := (Int.ediv_lt_iff_lt_mul hk).mpr (by omega)
  exact toInt_ofInt ⟨by omega, by omega⟩

/-- Division toward zero rounds down unless the dividend is negative and no multiple. -/
theorem tdiv_eq_ediv_iff {c k : Int} (hk : 0 < k) : c.tdiv k = c / k ↔ 0 ≤ c ∨ k ∣ c := by
  rw [Int.tdiv_eq_ediv, Int.sign_eq_one_of_pos hk]
  split <;> simp_all

/-- The integers of a block are those with its quotient. -/
theorem within_block {b k c : Int} (hk : 0 < k) : Within (b * k) k c ↔ c / k = b := by
  have stop : b * k + k = (b + 1) * k := by rw [Int.add_mul, Int.one_mul]
  unfold Within
  rw [stop, ← Int.le_ediv_iff_mul_le hk, ← Int.ediv_lt_iff_lt_mul hk]
  omega

/-- The integers of consecutive blocks are those whose quotient is one of them. -/
theorem within_blocks {least length k c : Int} (hk : 0 < k) :
    Within (least * k) (length * k) c ↔ Within least length (c / k) := by
  unfold Within
  rw [← Int.add_mul, ← Int.le_ediv_iff_mul_le hk, ← Int.ediv_lt_iff_lt_mul hk]

end Coordinate

namespace Point

variable {p q : Point} {k : Coordinate}

theorem toInt_quotient (hk : 0 < k.toInt) : (p.quotient k).x.toInt = p.x.toInt / k.toInt ∧
    (p.quotient k).y.toInt = p.y.toInt / k.toInt ∧ (p.quotient k).z.toInt = p.z.toInt / k.toInt :=
  ⟨Coordinate.toInt_floor hk, Coordinate.toInt_floor hk, Coordinate.toInt_floor hk⟩

theorem quotient_eq_iff (hk : 0 < k.toInt) : p.quotient k = q ↔ p.x.toInt / k.toInt = q.x.toInt ∧
    p.y.toInt / k.toInt = q.y.toInt ∧ p.z.toInt / k.toInt = q.z.toInt := by
  obtain ⟨hx, hy, hz⟩ := toInt_quotient (p := p) hk
  rw [Point.ext_iff, ← Int32.toInt_inj, ← Int32.toInt_inj, ← Int32.toInt_inj, hx, hy, hz]

/-- Whether every component of a point is a multiple of `k`. -/
def MultipleOf (p : Point) (k : Coordinate) : Prop :=
  k.toInt ∣ p.x.toInt ∧ k.toInt ∣ p.y.toInt ∧ k.toInt ∣ p.z.toInt

/-- Whether no component of a point is negative without being a multiple of `k`. -/
def RoundsDown (p : Point) (k : Coordinate) : Prop :=
  (0 ≤ p.x.toInt ∨ k.toInt ∣ p.x.toInt) ∧ (0 ≤ p.y.toInt ∨ k.toInt ∣ p.y.toInt) ∧
    (0 ≤ p.z.toInt ∨ k.toInt ∣ p.z.toInt)

theorem exists_div (hk : 0 < k.toInt) : ∃ q, p.div k = .ok q := by
  have fits (c : Coordinate) :
      (Int32.ofInt (c.toInt.tdiv k.toInt)).toInt = c.toInt.tdiv k.toInt := by
    obtain ⟨low, high⟩ := Coordinate.fits_toInt c
    have small := Int.natAbs_tdiv_le_natAbs c.toInt k.toInt
    have most := Int.tdiv_le_tdiv hk high
    have least := Int.tdiv_le_self (a := 2147483647) k.toInt (by decide)
    exact Coordinate.toInt_ofInt ⟨by omega, by omega⟩
  exact ⟨⟨_, _, _⟩, (div_eq_ok (Coordinate.ne_zero_of_pos hk)).mpr ⟨fits p.x, fits p.y, fits p.z⟩⟩

/-- Division reaches the quotient of a point exactly when it rounds down on every axis. -/
theorem div_eq_quotient_iff (hk : 0 < k.toInt) (h : p.div k = .ok q) :
    q = p.quotient k ↔ p.RoundsDown k := by
  obtain ⟨hx, hy, hz⟩ := (div_eq_ok (Coordinate.ne_zero_of_pos hk)).mp h
  rw [eq_comm, quotient_eq_iff hk, hx, hy, hz, eq_comm, Coordinate.tdiv_eq_ediv_iff hk, eq_comm,
    Coordinate.tdiv_eq_ediv_iff hk, eq_comm, Coordinate.tdiv_eq_ediv_iff hk]
  rfl

end Point

namespace SupervoxelGrid

variable {sv : SupervoxelGrid} {v region : Extent} {b p t : Point}

theorem edge_toInt (size : 0 < sv.blockSize.toNat ∧ sv.blockSize.toNat < 2 ^ 31) :
    0 < sv.edge.toInt := by
  have value := Coordinate.toInt_toInt32 (n := sv.blockSize) (by omega)
  unfold edge
  omega

/-! ### Blocks and the voxels they hold -/

theorem voxelExtent_eq_ok : sv.voxelExtent = .ok v ↔
    sv.majorants.extent.minimum.scale sv.edge = .ok v.minimum ∧
      sv.majorants.extent.shape.scale sv.edge = .ok v.shape := by
  unfold voxelExtent
  constructor
  · intro h
    obtain ⟨least, hleast, h⟩ := bind_eq_ok.mp h
    obtain ⟨shape, hshape, h⟩ := bind_eq_ok.mp h
    cases h
    exact ⟨hleast, hshape⟩
  · rintro ⟨hleast, hshape⟩
    simp only [hleast, hshape, ok_bind, pure_eq_ok]

theorem blockExtent_eq_ok : sv.blockExtent b = .ok region ↔
    b.scale sv.edge = .ok region.minimum ∧ region.shape = Point.fill sv.edge := by
  unfold blockExtent
  constructor
  · intro h
    obtain ⟨least, hleast, h⟩ := bind_eq_ok.mp h
    cases h
    exact ⟨hleast, rfl⟩
  · rintro ⟨hleast, hshape⟩
    rw [hleast, ok_bind, pure_eq_ok, ← hshape]

/-- A block holds the voxels whose quotient it is. -/
theorem mem_blockExtent (edge : 0 < sv.edge.toInt) (h : sv.blockExtent b = .ok region) :
    p ∈ region ↔ p.quotient sv.edge = b := by
  obtain ⟨hleast, hshape⟩ := blockExtent_eq_ok.mp h
  obtain ⟨hx, hy, hz⟩ := Point.scale_eq_ok.mp hleast
  rw [Extent.mem_def, hshape, hx, hy, hz, Point.quotient_eq_iff edge]
  exact and_congr (Coordinate.within_block edge)
    (and_congr (Coordinate.within_block edge) (Coordinate.within_block edge))

/-- The blocks of a grid hold the voxels whose quotient is a block of the grid. -/
theorem mem_voxelExtent (edge : 0 < sv.edge.toInt) (h : sv.voxelExtent = .ok v) :
    p ∈ v ↔ p.quotient sv.edge ∈ sv.majorants.extent := by
  obtain ⟨hleast, hshape⟩ := voxelExtent_eq_ok.mp h
  obtain ⟨lx, ly, lz⟩ := Point.scale_eq_ok.mp hleast
  obtain ⟨sx, sy, sz⟩ := Point.scale_eq_ok.mp hshape
  obtain ⟨qx, qy, qz⟩ := Point.toInt_quotient (p := p) edge
  rw [Extent.mem_def, Extent.mem_def, lx, ly, lz, sx, sy, sz, qx, qy, qz]
  exact and_congr (Coordinate.within_blocks edge)
    (and_congr (Coordinate.within_blocks edge) (Coordinate.within_blocks edge))

/-- The block of a voxel starts within the covered extent, so its start fits. -/
theorem blockExtent_quotient (edge : 0 < sv.edge.toInt) (h : sv.voxelExtent = .ok v)
    (hp : p ∈ v) : ∃ region, sv.blockExtent (p.quotient sv.edge) = .ok region ∧ p ∈ region := by
  obtain ⟨hleast, -⟩ := voxelExtent_eq_ok.mp h
  obtain ⟨lx, ly, lz⟩ := Point.scale_eq_ok.mp hleast
  obtain ⟨⟨x, -⟩, ⟨y, -⟩, ⟨z, -⟩⟩ := Extent.mem_def.mp hp
  obtain ⟨qx, qy, qz⟩ := Point.toInt_quotient (p := p) edge
  -- On each axis the block starts between the start of the extent and the voxel.
  have start {least first c : Coordinate} (hl : least.toInt = first.toInt * sv.edge.toInt)
      (hc : least.toInt ≤ c.toInt) :
      (Int32.ofInt (c.toInt / sv.edge.toInt * sv.edge.toInt)).toInt =
        c.toInt / sv.edge.toInt * sv.edge.toInt := by
    have below := Int.ediv_mul_le c.toInt (Int.ne_of_gt edge)
    have above : first.toInt * sv.edge.toInt ≤ c.toInt / sv.edge.toInt * sv.edge.toInt :=
      Int.mul_le_mul_of_nonneg_right ((Int.le_ediv_iff_mul_le edge).mpr (hl ▸ hc))
        (Int.le_of_lt edge)
    obtain ⟨low, -⟩ := Coordinate.fits_toInt least
    obtain ⟨-, high⟩ := Coordinate.fits_toInt c
    exact Coordinate.toInt_ofInt ⟨by omega, by omega⟩
  have found : sv.blockExtent (p.quotient sv.edge) = .ok
      ⟨⟨Int32.ofInt (p.x.toInt / sv.edge.toInt * sv.edge.toInt),
        Int32.ofInt (p.y.toInt / sv.edge.toInt * sv.edge.toInt),
        Int32.ofInt (p.z.toInt / sv.edge.toInt * sv.edge.toInt)⟩, Point.fill sv.edge⟩ := by
    refine blockExtent_eq_ok.mpr ⟨Point.scale_eq_ok.mpr ?_, rfl⟩
    rw [qx, qy, qz]
    exact ⟨start lx x, start ly y, start lz z⟩
  exact ⟨_, found, (mem_blockExtent edge found).mpr rfl⟩

/-- A grid of blocks whose voxels have a bound has one itself. -/
theorem leastUpperBound_majorants (edge : 0 < sv.edge.toInt) (h : sv.voxelExtent = .ok v)
    (ht : v.leastUpperBound = .ok t) : ∃ top, sv.majorants.extent.leastUpperBound = .ok top := by
  obtain ⟨hleast, hshape⟩ := voxelExtent_eq_ok.mp h
  obtain ⟨lx, ly, lz⟩ := Point.scale_eq_ok.mp hleast
  obtain ⟨sx, sy, sz⟩ := Point.scale_eq_ok.mp hshape
  obtain ⟨tx, ty, tz⟩ := Extent.leastUpperBound_eq_ok.mp ht
  have top {first count least length last : Coordinate}
      (hl : least.toInt = first.toInt * sv.edge.toInt)
      (hs : length.toInt = count.toInt * sv.edge.toInt)
      (hlast : last.toInt = least.toInt + length.toInt) :
      (Int32.ofInt (first.toInt + count.toInt)).toInt = first.toInt + count.toInt := by
    have whole : last.toInt = (first.toInt + count.toInt) * sv.edge.toInt := by
      rw [hlast, hl, hs, Int.add_mul]
    have quotient : last.toInt / sv.edge.toInt = first.toInt + count.toInt := by
      rw [whole, Int.mul_ediv_cancel _ (Int.ne_of_gt edge)]
    rw [← quotient]
    exact Coordinate.toInt_floor edge
  exact ⟨⟨_, _, _⟩, Extent.leastUpperBound_eq_ok.mpr ⟨top lx sx tx, top ly sy ty, top lz sz tz⟩⟩

/-! ### The look-up -/

theorem majorantAtVoxel_of_not_mem (h : sv.voxelExtent = .ok v) (ht : v.leastUpperBound = .ok t)
    (hp : p ∉ v) : sv.majorantAtVoxel p = refuse (.outOfBounds p v.dimensions) := by
  unfold majorantAtVoxel
  simp only [h, lift_ok, ok_bind, Extent.contains_eq_ok ht, decide_eq_false hp, Bool.false_eq_true,
    if_false]

theorem majorantAtVoxel_of_mem (h : sv.voxelExtent = .ok v) (ht : v.leastUpperBound = .ok t)
    (hp : p ∈ v) (hb : p.div sv.edge = .ok b) : sv.majorantAtVoxel p = sv.majorants.get b := by
  unfold majorantAtVoxel
  simp only [h, lift_ok, ok_bind, Extent.contains_eq_ok ht, decide_eq_true hp, if_true, hb]

theorem majorantAtVoxel_of_fault {fault : Fault} (h : sv.voxelExtent = .ok v)
    (ht : v.leastUpperBound = .error fault) : sv.majorantAtVoxel p = .error (.fault fault) := by
  unfold majorantAtVoxel Extent.contains
  rw [h, lift_ok, ok_bind, ht]
  rfl

/-- What the look-up of a voxel answers. Where the covered extent has no bound that fits, it faults;
else it refuses a voxel outside the blocks. A voxel inside lies in one block of the grid. The
majorant of that block is the answer if every component rounds down, and otherwise another block is
asked. -/
theorem majorantAtVoxel_spec (size : 0 < sv.blockSize.toNat ∧ sv.blockSize.toNat < 2 ^ 31)
    (positive : sv.majorants.extent.Positive)
    (counted : sv.majorants.extent.pointCount = .ok sv.majorants.values.size)
    (voxels : sv.voxelExtent = .ok v) (p : Point) :
    (∀ fault, v.leastUpperBound = .error fault → sv.majorantAtVoxel p = .error (.fault fault)) ∧
      ∀ t, v.leastUpperBound = .ok t →
        (p ∉ v → sv.majorantAtVoxel p = refuse (.outOfBounds p v.dimensions)) ∧
        (p ∈ v → ∃ b ∈ sv.majorants.extent, ∃ region m, sv.blockExtent b = .ok region ∧
          p ∈ region ∧ (∀ c other, sv.blockExtent c = .ok other → p ∈ other → c = b) ∧
          sv.majorants.get b = .ok m ∧
          ∃ asked, sv.majorantAtVoxel p = sv.majorants.get asked ∧
            (asked = b ↔ p.RoundsDown sv.edge)) := by
  refine ⟨fun fault ht => majorantAtVoxel_of_fault voxels ht, fun t ht => ?_⟩
  have edge := edge_toInt size
  obtain ⟨few, count⟩ := positive.pointCount_eq_ok.mp counted
  have complete : sv.majorants.Complete :=
    ⟨positive, leastUpperBound_majorants edge voxels ht, count, count ▸ few⟩
  refine ⟨majorantAtVoxel_of_not_mem voxels ht, fun hp => ?_⟩
  have inside := (mem_voxelExtent edge voxels).mp hp
  obtain ⟨region, hregion, holds⟩ := blockExtent_quotient edge voxels hp
  obtain ⟨asked, hasked⟩ := Point.exists_div (p := p) edge
  refine ⟨p.quotient sv.edge, inside, region, _, hregion, holds, fun c other hc hother => ?_,
    Grid.get_eq_valueAt complete inside, asked, majorantAtVoxel_of_mem voxels ht hp hasked,
    Point.div_eq_quotient_iff edge hasked⟩
  exact ((mem_blockExtent edge hc).mp hother).symm

/-- Two blocks of edge two, on both sides of the origin. -/
def straddling : SupervoxelGrid :=
  ⟨2, ⟨⟨-1, 0, 0⟩, ⟨2, 1, 1⟩⟩, #[Rgb.splat ⟨0x3f800000⟩, Rgb.splat ⟨0x40000000⟩]⟩

/-- The look-up of a voxel whose negative component is a multiple of the edge. -/
theorem majorantAtVoxel_spec_straddling :
    (0 < straddling.blockSize.toNat ∧ straddling.blockSize.toNat < 2 ^ 31) ∧
      straddling.majorants.extent.Positive ∧
      straddling.majorants.extent.pointCount = .ok straddling.majorants.values.size ∧
      straddling.voxelExtent = .ok ⟨⟨-2, 0, 0⟩, ⟨4, 2, 2⟩⟩ ∧
      ∃ b ∈ straddling.majorants.extent, ∃ region m, straddling.blockExtent b = .ok region ∧
        ⟨-2, 1, 1⟩ ∈ region ∧ straddling.majorants.get b = .ok m ∧
        straddling.majorantAtVoxel ⟨-2, 1, 1⟩ = .ok m := by
  have size : 0 < straddling.blockSize.toNat ∧ straddling.blockSize.toNat < 2 ^ 31 := by decide
  have positive : straddling.majorants.extent.Positive := ⟨by decide, by decide, by decide⟩
  have counted : straddling.majorants.extent.pointCount =
      .ok straddling.majorants.values.size := by decide
  have voxels : straddling.voxelExtent = .ok ⟨⟨-2, 0, 0⟩, ⟨4, 2, 2⟩⟩ := by decide
  have down : (⟨-2, 1, 1⟩ : Point).RoundsDown straddling.edge :=
    ⟨.inr ⟨-1, rfl⟩, .inl (by decide), .inl (by decide)⟩
  obtain ⟨-, answers⟩ := majorantAtVoxel_spec size positive counted voxels ⟨-2, 1, 1⟩
  obtain ⟨-, found⟩ := answers ⟨2, 2, 2⟩ (by decide)
  obtain ⟨b, hb, region, m, hregion, holds, -, hm, asked, same, reaches⟩ := found (by decide)
  refine ⟨size, positive, counted, voxels, b, hb, region, m, hregion, holds, hm, ?_⟩
  rw [same, reaches.mpr down, hm]

/-- Next to the origin a block below zero and the block above it are confused. The voxel
`(-1, 0, 0)` lies in the block `(-1, 0, 0)`, and the answer is the majorant of another one. -/
theorem majorantAtVoxel_wrong_block :
    ∃ region, straddling.blockExtent ⟨-1, 0, 0⟩ = .ok region ∧ ⟨-1, 0, 0⟩ ∈ region ∧
      straddling.majorants.get ⟨-1, 0, 0⟩ = .ok (Rgb.splat ⟨0x3f800000⟩) ∧
      straddling.majorantAtVoxel ⟨-1, 0, 0⟩ = .ok (Rgb.splat ⟨0x40000000⟩) ∧
      straddling.majorantAtVoxel ⟨-1, 0, 0⟩ ≠ straddling.majorants.get ⟨-1, 0, 0⟩ :=
  ⟨⟨⟨-2, 0, 0⟩, ⟨2, 2, 2⟩⟩, by decide, by decide, by decide, by decide, by decide⟩

end SupervoxelGrid

end DenseMedium
