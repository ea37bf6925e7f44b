import DenseMedium.Proofs.Majorant.Partition
import DenseMedium.Proofs.Majorant.Refusals
import Mathlib.Tactic.Choose

/-!
The builder over grids that lie anywhere, and over grids without points.

A grid of blocks begins where the least point of the grid is after rounding toward zero, so a block
may begin before the grid or end behind it. Each still shares a point with it, and none overflows.
What the builder does depends on the lengths only.

* `exists_shared`: every block shares a point with the grid.
* `exists_cell`: so the reduction of every block succeeds.
* `build_cases`: a size that does not cut the grid is refused, and one that does is answered with
  majorants if the planes of the grid have points. The grid may still be empty, having no planes.
  Where the planes are empty, blocks cannot be counted off by planes, and the builder faults.
-/

namespace DenseMedium

/-! ### Blocks that begin at a rounded point -/

/-- A block of a rounded extent and the extent itself share the greater of their two beginnings. -/
theorem Coordinate.block_reaches {least length b k : Int} (hk : 0 < k) (divides : k ∣ length)
    (h : Within (least.tdiv k) (length.tdiv k) b) :
    Within (b * k) k (max (b * k) least) ∧ Within least length (max (b * k) least) := by
  obtain ⟨after, before⟩ := block_between hk h
  have parts := Int.tmod_add_tdiv_mul least k
  have rest := Int.tmod_lt_of_pos least hk
  have rest' := Int.lt_tmod_of_pos least hk
  rw [Int.tdiv_mul_cancel divides] at before
  exact ⟨⟨by omega, by omega⟩, ⟨by omega, by omega⟩⟩

namespace Extent

variable {e : Extent} {k : Coordinate}

/-- Rounding toward zero does not move the bound out of the coordinates. -/
theorem leastUpperBound_rounded (hk : 0 < k.toInt) (nonnegative : e.Nonnegative)
    (bounded : ∃ top, e.leastUpperBound = .ok top) :
    ∃ top, (e.rounded k).leastUpperBound = .ok top := by
  obtain ⟨top, htop⟩ := bounded
  obtain ⟨tx, ty, tz⟩ := leastUpperBound_eq_ok.mp htop
  obtain ⟨nx, ny, nz⟩ := nonnegative
  obtain ⟨rx, ry, rz⟩ := toInt_rounded (e := e) hk
  have axis {least length last first : Coordinate}
      (hfirst : first.toInt = least.toInt.tdiv k.toInt * k.toInt) (hlength : 0 ≤ length.toInt)
      (hlast : last.toInt = least.toInt + length.toInt) :
      (Int32.ofInt (first.toInt + length.toInt)).toInt = first.toInt + length.toInt := by
    have between := Coordinate.tdiv_mul_between (c := least.toInt) hk
    rw [← hfirst] at between
    obtain ⟨low, -⟩ := Coordinate.fits_toInt least
    obtain ⟨-, high⟩ := Coordinate.fits_toInt last
    obtain ⟨-, long⟩ := Coordinate.fits_toInt length
    exact Coordinate.toInt_ofInt ⟨by omega, by omega⟩
  exact ⟨⟨_, _, _⟩, leastUpperBound_eq_ok.mpr ⟨axis rx nx tx, axis ry ny ty, axis rz nz tz⟩⟩

theorem exists_blockGrid (hk : 0 < k.toInt) : ∃ blocks, Majorant.blockGrid e k = .ok blocks := by
  obtain ⟨shape, hshape⟩ := Point.exists_div (p := e.shape) hk
  obtain ⟨least, hleast⟩ := Point.exists_div (p := e.minimum) hk
  unfold Majorant.blockGrid
  rw [hshape, ok_bind, hleast, ok_bind]
  exact ⟨_, rfl⟩

/-- The numbers of blocks on the axes of a plane, and in all. -/
theorem blockGrid_lengths {blocks : Extent} (hk : 0 < k.toInt) (nonnegative : e.Nonnegative)
    (lengths : e.shape.MultipleOf k) (h : Majorant.blockGrid e k = .ok blocks) :
    (blocks.width * blocks.height = 0 ↔ e.width * e.height = 0) ∧ blocks.volume ≤ e.volume := by
  obtain ⟨-, sx, sy, sz⟩ := toInt_blockGrid hk h
  obtain ⟨nx, ny, nz⟩ := nonnegative
  obtain ⟨dx, dy, dz⟩ := lengths
  have axis {length count : Coordinate} (hlength : 0 ≤ length.toInt)
      (hcount : count.toInt = length.toInt.tdiv k.toInt) (divides : k.toInt ∣ length.toInt) :
      (count.toInt.toNat = 0 ↔ length.toInt.toNat = 0) ∧
        count.toInt.toNat ≤ length.toInt.toNat := by
    have whole : count.toInt * k.toInt = length.toInt := by
      rw [hcount, Int.tdiv_mul_cancel divides]
    have few := Int.tdiv_le_self k.toInt hlength
    have sign := Int.tdiv_nonneg hlength (Int.le_of_lt hk)
    rw [← hcount] at few sign
    have zero : count.toInt = 0 ↔ length.toInt = 0 := by
      rw [← whole, Int.mul_eq_zero]
      omega
    omega
  obtain ⟨zeroX, fewX⟩ := axis nx sx dx
  obtain ⟨zeroY, fewY⟩ := axis ny sy dy
  obtain ⟨-, fewZ⟩ := axis nz sz dz
  unfold volume width height depth
  rw [Nat.mul_eq_zero, Nat.mul_eq_zero, zeroX, zeroY]
  exact ⟨Iff.rfl, Nat.mul_le_mul fewX (Nat.mul_le_mul fewY fewZ)⟩

/-- Each block shares a point with the extent that the blocks were made of. -/
theorem exists_shared {sv : SupervoxelGrid} {region : Extent} {b : Point} (edge : 0 < sv.edge.toInt)
    (lengths : e.shape.MultipleOf sv.edge)
    (blocks : Majorant.blockGrid e sv.edge = .ok sv.majorants.extent)
    (hb : b ∈ sv.majorants.extent) (hregion : sv.blockExtent b = .ok region) :
    ∃ p, p ∈ region ∧ p ∈ e := by
  obtain ⟨hstart, hshape⟩ := SupervoxelGrid.blockExtent_eq_ok.mp hregion
  obtain ⟨rx, ry, rz⟩ := Point.scale_eq_ok.mp hstart
  obtain ⟨⟨lx, ly, lz⟩, sx, sy, sz⟩ := toInt_blockGrid edge blocks
  obtain ⟨x, y, z⟩ := mem_def.mp hb
  obtain ⟨dx, dy, dz⟩ := lengths
  rw [lx, sx] at x
  rw [ly, sy] at y
  rw [lz, sz] at z
  obtain ⟨inX, inX'⟩ := Coordinate.block_reaches edge dx x
  obtain ⟨inY, inY'⟩ := Coordinate.block_reaches edge dy y
  obtain ⟨inZ, inZ'⟩ := Coordinate.block_reaches edge dz z
  refine ⟨region.minimum.join e.minimum, ?_, ?_⟩ <;>
    rw [mem_def, Point.join, Coordinate.toInt_max, Coordinate.toInt_max, Coordinate.toInt_max, rx,
      ry, rz]
  · rw [hshape]
    exact ⟨inX, inY, inZ⟩
  · exact ⟨inX', inY', inZ'⟩

end Extent

namespace Majorant

variable {g : VoxelGrid} {s : UInt32}

/-! ### What the builder makes of a tiled grid -/

/-- The reduction of a block succeeds, wherever the grid lies. -/
theorem exists_cell (sv : SupervoxelGrid) (hg : g.Full) (nonnegative : g.extent.Nonnegative)
    (edge : 0 < sv.edge.toInt) (lengths : g.extent.shape.MultipleOf sv.edge)
    (made : blockGrid g.extent sv.edge = .ok sv.majorants.extent) {n : Nat}
    (hn : n < sv.majorants.extent.volume) : ∃ m, cell g sv.majorants.extent sv.edge
      (sv.majorants.extent.width * sv.majorants.extent.height) n = .ok m := by
  obtain ⟨nonnegative', top, htop⟩ := Extent.blockGrid_spec nonnegative hg.bounded edge made
  have block := Extent.pointAt_mem htop hn
  have voxels := voxelExtent_of_blockGrid edge lengths made
  obtain ⟨last, hlast⟩ := Extent.leastUpperBound_rounded edge nonnegative hg.bounded
  obtain ⟨region, bound, hregion, hbound⟩ :=
    SupervoxelGrid.exists_blockExtent edge voxels hlast block
  obtain ⟨p, hp, hp'⟩ := Extent.exists_shared edge lengths made block hregion
  obtain ⟨hstart, hshape⟩ := SupervoxelGrid.blockExtent_eq_ok.mp hregion
  have cube : (⟨region.minimum, Point.fill sv.edge⟩ : Extent) = region :=
    Extent.ext rfl hshape.symm
  have reduced := blockMajorant_eq hg region
  rw [hg.reach_eq_ok hbound hp hp', ok_bind] at reduced
  unfold cell
  rw [Extent.add_localBlock nonnegative' htop hn, ok_bind, hstart, ok_bind, cube, reduced]
  exact ⟨_, rfl⟩

/-- Once the edge divides the lengths, the builder counts the blocks, and only then asks whether
their planes are empty. -/
theorem build_of_tileable (hg : g.Full) (nonnegative : g.extent.Nonnegative)
    (room : Cell.width Rgb * g.extent.volume ≤ Size.maxBytes)
    (tileable : g.extent.untileableAxis (tilingEdge s) = .ok none) :
    ∃ blocks, blockGrid g.extent s.toInt32 = .ok blocks ∧ blocks.pointCount = .ok blocks.volume ∧
      (blocks.width * blocks.height = 0 ↔ g.extent.width * g.extent.height = 0) ∧
      build g s = if blocks.width * blocks.height = 0 then .error (.fault .emptySlice) else
        (List.range blocks.volume).mapM (fun n =>
            (cell g blocks s.toInt32 (blocks.width * blocks.height) n : Outcome Rgb)) >>=
          fun values => Grid.ofValues blocks values.toArray >>= fun majorants =>
            .ok ⟨s, majorants⟩ := by
  obtain ⟨same, edge⟩ := tilingEdge_of_tileable tileable
  rw [same] at tileable
  have lengths := multipleOf_of_tileable edge tileable
  obtain ⟨blocks, hblocks⟩ : ∃ blocks, blockGrid g.extent s.toInt32 = .ok blocks :=
    Extent.exists_blockGrid edge
  obtain ⟨nonnegative', -⟩ := Extent.blockGrid_spec nonnegative hg.bounded edge hblocks
  obtain ⟨plane, few⟩ := Extent.blockGrid_lengths edge nonnegative lengths hblocks
  have countable : blocks.volume < Size.bound :=
    Nat.lt_of_le_of_lt few (hg.size_eq ▸ hg.size_lt)
  have counted : blocks.pointCount = .ok blocks.volume :=
    (Extent.pointCount_eq_ok nonnegative').mpr ⟨countable, rfl⟩
  have sliced : Size.mul blocks.shape.x.toSize blocks.shape.y.toSize =
      .ok (blocks.width * blocks.height) := by
    rw [Coordinate.toSize_of_nonneg nonnegative'.1, Coordinate.toSize_of_nonneg nonnegative'.2.1]
    exact Size.mul_ok (Extent.plane_lt blocks)
  have reserved : Size.reserve blocks.volume (Cell.width Rgb) = .ok () := by
    refine Size.reserve_eq_ok.mpr (Nat.le_trans ?_ room)
    rw [Nat.mul_comm]
    exact Nat.mul_le_mul_left _ few
  refine ⟨blocks, hblocks, counted, plane, ?_⟩
  unfold build
  simp only [same, tileable, hblocks, sliced, counted, reserved, lift_ok, ok_bind]
  rfl

/-- Blocks that the edge divides the lengths into have majorants, one for each. -/
theorem exists_majorants (hg : g.Full) (nonnegative : g.extent.Nonnegative)
    (edge : 0 < s.toInt32.toInt) (lengths : g.extent.shape.MultipleOf s.toInt32)
    {blocks : Extent} (hblocks : blockGrid g.extent s.toInt32 = .ok blocks) :
    ∃ values, values.length = blocks.volume ∧ (List.range blocks.volume).mapM (fun n =>
      (cell g blocks s.toInt32 (blocks.width * blocks.height) n : Outcome Rgb)) = .ok values := by
  -- The cells are those of a grid of majorants that has no values yet.
  choose! majorant hmajorant using fun n (hn : n < blocks.volume) =>
    exists_cell ⟨s, ⟨blocks, #[]⟩⟩ hg nonnegative edge lengths hblocks hn
  refine ⟨(List.range blocks.volume).map majorant, ?_, mapM_eq_ok_map fun n hn => ?_⟩
  · rw [List.length_map, List.length_range]
  · exact lift_eq_ok.mpr (hmajorant n (List.mem_range.mp hn))

/-! ### Every block size -/

/-- Whether a block size is a coordinate that divides every length. A length of zero is divided by
any. -/
def Cuts (s : UInt32) (e : Extent) : Prop :=
  0 < s.toNat ∧ s.toNat < 2 ^ 31 ∧ Divides s.toNat e

theorem forall_divides_iff {e : Extent} (nonnegative : e.Nonnegative) :
    (∀ axis ∈ Axis.all,
      0 < (tilingEdge s).toInt ∧ (tilingEdge s).toInt ∣ (e.shape.component axis).toInt) ↔
        Cuts s e := by
  obtain ⟨nx, ny, nz⟩ := nonnegative
  unfold Axis.all Cuts Divides
  simp only [List.forall_mem_cons, List.not_mem_nil, false_imp_iff, implies_true, and_true,
    Point.component]
  rw [tilingEdge_divides_length nx, tilingEdge_divides_length ny, tilingEdge_divides_length nz]
  change _ ↔ _ ∧ _ ∧ s.toNat ∣ e.shape.x.toInt.toNat ∧ s.toNat ∣ e.shape.y.toInt.toNat ∧
    s.toNat ∣ e.shape.z.toInt.toNat
  constructor
  · rintro ⟨⟨pos, small, dx⟩, ⟨-, -, dy⟩, -, -, dz⟩
    exact ⟨pos, small, dx, dy, dz⟩
  · rintro ⟨pos, small, dx, dy, dz⟩
    exact ⟨⟨pos, small, dx⟩, ⟨pos, small, dy⟩, pos, small, dz⟩

/-- What the builder answers for a full grid without negative lengths: it refuses a size that does
not cut the grid. It makes the majorants for one that does, unless the planes are empty: then it
faults. -/
theorem build_cases (hg : g.Full) (nonnegative : g.extent.Nonnegative)
    (room : Cell.width Rgb * g.extent.volume ≤ Size.maxBytes) (s : UInt32) :
    (¬ Cuts s g.extent →
        ∃ axis, build g s = refuse (.indivisibleDimension axis (g.dimensions.along axis) s)) ∧
      (Cuts s g.extent → g.extent.width * g.extent.height ≠ 0 → ∃ sv, build g s = .ok sv) ∧
      (Cuts s g.extent → g.extent.width * g.extent.height = 0 →
        build g s = .error (.fault .emptySlice)) := by
  rw [← forall_divides_iff nonnegative]
  rcases Point.firstNonMultiple_cases (p := g.extent.shape) (tilingEdge_nonneg s) Axis.all with
    ⟨tileable, all⟩ | ⟨axis, untileable, before, after, axes, -, bad⟩
  · obtain ⟨blocks, hblocks, counted, plane, steps⟩ :=
      build_of_tileable hg nonnegative room tileable
    obtain ⟨same, edge⟩ := tilingEdge_of_tileable tileable
    refine ⟨fun h => absurd all h, fun _ planes => ?_, fun _ empty => ?_⟩
    · rw [same] at tileable
      obtain ⟨values, length, cells⟩ := exists_majorants hg nonnegative edge
        (multipleOf_of_tileable edge tileable) hblocks
      have stored : Grid.ofValues blocks values.toArray = .ok ⟨blocks, values.toArray⟩ :=
        Grid.ofValues_eq_ok.mpr ⟨by rw [List.size_toArray, length, counted], rfl⟩
      rw [steps, if_neg fun empty => planes (plane.mp empty), cells, ok_bind, stored, ok_bind]
      exact ⟨_, rfl⟩
    · rw [steps, if_pos (plane.mpr empty)]
  · have mem : axis ∈ Axis.all := by
      rw [axes]
      exact List.mem_append_right _ List.mem_cons_self
    have refused := build_of_untileable (g := g) untileable
    exact ⟨fun _ => ⟨axis, refused⟩, fun h => absurd (h axis mem) bad, fun h =>
      absurd (h axis mem) bad⟩

end Majorant

end DenseMedium
