import DenseMedium.Proofs.Coefficient.Maximum
import DenseMedium.Proofs.Grid.Access
import DenseMedium.Proofs.Lattice.Dimensions
import DenseMedium.Proofs.Majorant.Tiling

/-!
Majorants are sound and tight.

When a block size divides every dimension of a grid at the origin, the builder answers with the grid
of all block majorants. The majorant found for a voxel is a number in every channel, bounds the
extinction there wherever that is a number, and is the extinction of some voxel of the same block;
only a block without a number has `-inf`.

* `blockMajorant_eq_ok`: the reduction of a region inside the grid is the maximum of the extinctions
  of its points.
* `build_eq_ok`: the builder puts the reduction of every cube at the coordinate of the cube.
* `majorantAtVoxel_eq_ok`: the look-up of a voxel reaches the reduction of its own cube.
-/

namespace DenseMedium

namespace Majorant

variable {g : VoxelGrid} {k : Coordinate} {s : UInt32} {b p q : Point}

/-! ### One block -/

/-- The extinctions of the points of a region. -/
def extinctions (g : VoxelGrid) (region : Extent) : List Rgb :=
  region.enumerate.map fun p => (g.valueAt p).sigmaT

/-- The reduction of a region, if it can be reached, is the maximum of the extinctions of the points
that it shares with the grid. -/
theorem blockMajorant_eq (hg : g.Full) (region : Extent) :
    blockMajorant g region = (g.reach region >>= fun _ =>
      .ok (Rgb.maximum ((g.extent.shared region).map fun p => (g.valueAt p).sigmaT))) := by
  unfold Rgb.maximum
  simp only [List.foldl_map]
  exact hg.foldRegion_eq_foldl region (fun (m : Rgb) _ v => m.max v.sigmaT) Rgb.negativeInfinity

theorem blockMajorant_eq_ok (hg : g.Complete) {region : Extent} {top : Point}
    (htop : region.leastUpperBound = .ok top) (inside : region.Inside g.extent) :
    blockMajorant g region = .ok (Rgb.maximum (extinctions g region)) := by
  obtain ⟨b, hb⟩ := hg.bounded
  have reached := hg.full.reach_eq_ok htop inside.minimum_mem_self inside.minimum_mem
  rw [blockMajorant_eq hg.full, reached, ok_bind, Extent.shared_eq_enumerate hb htop inside]
  rfl

/-- The majorant of the cube at a coordinate. -/
def cubeMajorant (g : VoxelGrid) (k : Coordinate) (b : Point) : Rgb :=
  Rgb.maximum (extinctions g (Extent.cube k b))

/-- The extinctions that a cube reduces are those of the voxels with its coordinate. -/
theorem mem_extinctions (h : g.extent.Tiles k) (hb : b ∈ g.extent.blocks k) {c : Rgb} :
    c ∈ extinctions g (Extent.cube k b) ↔
      ∃ q ∈ g.extent, q.quotient k = b ∧ (g.valueAt q).sigmaT = c := by
  obtain ⟨top, htop⟩ := h.cube_leastUpperBound hb
  unfold extinctions
  rw [List.mem_map]
  constructor
  · rintro ⟨q, hq, rfl⟩
    obtain ⟨hqe, hqb⟩ := (h.mem_cube hb).mp ((Extent.mem_enumerate htop).mp hq)
    exact ⟨q, hqe, hqb, rfl⟩
  · rintro ⟨q, hqe, hqb, rfl⟩
    exact ⟨q, (Extent.mem_enumerate htop).mpr ((h.mem_cube hb).mpr ⟨hqe, hqb⟩), rfl⟩

/-! ### The grid of blocks -/

/-- The majorants of the cubes of edge `k` that tile a grid. -/
def majorants (g : VoxelGrid) (k : Coordinate) : Grid Rgb :=
  ⟨g.extent.blocks k, ((g.extent.blocks k).enumerate.map (cubeMajorant g k)).toArray⟩

theorem size_majorants (g : VoxelGrid) (k : Coordinate) :
    (majorants g k).values.size = (g.extent.blocks k).volume := by
  rw [majorants, List.size_toArray, List.length_map, Extent.length_enumerate]

theorem complete_majorants (h : g.extent.Tiles k) (hv : g.extent.volume < Size.bound) :
    (majorants g k).Complete where
  positive := h.blocks_positive
  bounded := ⟨_, Extent.leastUpperBound_of_origin rfl⟩
  size_eq := size_majorants g k
  size_lt := by
    rw [size_majorants]
    exact Nat.lt_of_le_of_lt h.volume_blocks_le hv

/-- The value at a coordinate is the majorant of the cube there. -/
theorem get_majorants (h : g.extent.Tiles k) (hv : g.extent.volume < Size.bound)
    (hb : b ∈ g.extent.blocks k) : (majorants g k).get b = .ok (cubeMajorant g k b) := by
  refine (Grid.get_eq_ok (complete_majorants h hv)).mpr ⟨hb, ?_⟩
  have hr := Extent.rank_lt hb
  change ((g.extent.blocks k).enumerate.map (cubeMajorant g k)).toArray[
    (g.extent.blocks k).rank b]? = _
  rw [List.getElem?_toArray, List.getElem?_map, Extent.enumerate, List.getElem?_map,
    List.getElem?_range hr, Option.map_some, Option.map_some, Extent.pointAt_rank hb]

/-- Cell number `n` of the builder is the majorant of the cube at block number `n`. -/
theorem cell_eq_ok (hg : g.Complete) (h : g.extent.Tiles k) {n : Nat}
    (hn : n < (g.extent.blocks k).volume) :
    cell g (g.extent.blocks k) k ((g.extent.blocks k).width * (g.extent.blocks k).height) n =
      .ok (cubeMajorant g k ((g.extent.blocks k).pointAt n)) := by
  have origin := Extent.leastUpperBound_of_origin (e := g.extent.blocks k) rfl
  have hb := Extent.pointAt_mem origin hn
  obtain ⟨top, htop⟩ := h.cube_leastUpperBound hb
  unfold cell
  rw [Extent.add_localBlock h.blocks_positive.nonnegative origin hn, ok_bind, h.scale_eq_ok hb,
    ok_bind]
  exact blockMajorant_eq_ok hg htop (h.cube_inside hb)

/-- The builder's cells, from the first to the last. -/
theorem mapM_cell (hg : g.Complete) (h : g.extent.Tiles k) :
    ((List.range (g.extent.blocks k).volume).mapM fun n =>
      (liftM (cell g (g.extent.blocks k) k
        ((g.extent.blocks k).width * (g.extent.blocks k).height) n) : Outcome Rgb)) =
      .ok ((g.extent.blocks k).enumerate.map (cubeMajorant g k)) := by
  rw [Extent.enumerate, List.map_map]
  exact mapM_eq_ok_map fun n hn => lift_eq_ok.mpr (cell_eq_ok hg h (List.mem_range.mp hn))

theorem ofValues_majorants (h : g.extent.Tiles k) (hv : g.extent.volume < Size.bound) :
    Grid.ofValues (g.extent.blocks k)
      ((g.extent.blocks k).enumerate.map (cubeMajorant g k)).toArray = .ok (majorants g k) := by
  have count := Nat.lt_of_le_of_lt h.volume_blocks_le hv
  unfold Grid.ofValues
  rw [h.blocks_positive.pointCount_eq_ok.mpr ⟨count, rfl⟩, lift_ok, ok_bind,
    if_neg (fun hne => hne (size_majorants g _).symm), pure_eq_ok]
  rfl

/-- The number of cells of one plane of blocks, as the builder computes it. -/
theorem plane_eq_ok (h : g.extent.Tiles k) (hv : g.extent.volume < Size.bound) :
    Size.mul (g.extent.blocks k).shape.x.toSize (g.extent.blocks k).shape.y.toSize =
      .ok ((g.extent.blocks k).width * (g.extent.blocks k).height) := by
  have positive := h.blocks_positive
  have few := h.volume_blocks_le
  rw [Extent.volume_eq] at few
  have plane := Nat.le_mul_of_pos_right ((g.extent.blocks k).width * (g.extent.blocks k).height)
    positive.depth_pos
  rw [Coordinate.toSize_of_nonneg (Int.le_of_lt positive.1),
    Coordinate.toSize_of_nonneg (Int.le_of_lt positive.2.1)]
  exact Size.mul_ok (Nat.lt_of_le_of_lt (Nat.le_trans plane few) hv)

/-- The builder needs room for the majorants, of which there are at most as many as voxels. -/
theorem build_eq_ok_of_fits (hg : g.Complete) (h : g.extent.Tiles (tilingEdge s))
    (fits : Cell.width Rgb * g.extent.volume ≤ Size.maxBytes) :
    build g s = .ok ⟨s, majorants g (tilingEdge s)⟩ := by
  have few := h.volume_blocks_le
  have positive := h.blocks_positive
  have countable :=
    positive.pointCount_eq_ok.mpr ⟨Nat.lt_of_le_of_lt few hg.volume_lt, rfl⟩
  have plane_pos := Nat.mul_pos positive.width_pos positive.height_pos
  have reserved : Size.reserve (g.extent.blocks (tilingEdge s)).volume (Cell.width Rgb) =
      .ok () := by
    refine Size.reserve_eq_ok.mpr (Nat.le_trans ?_ fits)
    rw [Nat.mul_comm]
    exact Nat.mul_le_mul_left _ few
  unfold build
  simp only [h.untileableAxis_eq_ok, h.blockGrid_eq_ok, lift_ok, ok_bind,
    plane_eq_ok h hg.volume_lt, countable, reserved, if_neg (Nat.pos_iff_ne_zero.mp plane_pos),
    pure_eq_ok]
  rw [mapM_cell hg h, ok_bind, ofValues_majorants h hg.volume_lt, ok_bind]

theorem build_eq_ok (hg : g.Complete) (h : g.extent.Tiles (tilingEdge s))
    (room : Cell.width Voxel * g.extent.volume ≤ Size.maxBytes) :
    build g s = .ok ⟨s, majorants g (tilingEdge s)⟩ := by
  refine build_eq_ok_of_fits hg h (Nat.le_trans ?_ room)
  exact Nat.mul_le_mul_right _ (by decide)

/-! ### Looking up a voxel -/

/-- A divisor of the dimensions is an edge whose cubes tile the grid. -/
theorem tiles_of_dvd {e : Extent} (origin : e.minimum = Point.zero) (positive : e.Positive)
    (divides : s.toNat ∣ e.width ∧ s.toNat ∣ e.height ∧ s.toNat ∣ e.depth) :
    tilingEdge s = s.toInt32 ∧ s.toInt32.toInt = s.toNat ∧ e.Tiles s.toInt32 := by
  obtain ⟨hx, hy, hz⟩ := divides
  have pos : 0 < s.toNat := Nat.pos_of_dvd_of_pos hx positive.width_pos
  have le := Nat.le_of_dvd positive.width_pos hx
  have length_le : e.width ≤ 2147483647 := by
    have := (Coordinate.fits_toInt e.shape.x).2
    unfold Extent.width
    omega
  have small : s.toNat < 2147483648 := by omega
  have value := Coordinate.toInt_toInt32 small
  have divides_length {c : Coordinate} (hc : 0 < c.toInt) (h : s.toNat ∣ c.toInt.toNat) :
      s.toInt32.toInt ∣ c.toInt := by
    rw [value, ← Int.toNat_of_nonneg (Int.le_of_lt hc)]
    exact Int.natCast_dvd_natCast.mpr h
  refine ⟨if_pos (UInt32.lt_iff_toNat_lt.mpr small), value, origin, positive, by omega, ?_, ?_, ?_⟩
  · exact divides_length positive.1 hx
  · exact divides_length positive.2.1 hy
  · exact divides_length positive.2.2 hz

theorem voxelExtent_eq_ok (h : g.extent.Tiles s.toInt32) :
    SupervoxelGrid.voxelExtent ⟨s, majorants g s.toInt32⟩ = .ok g.extent := by
  obtain ⟨hx, hy, hz⟩ := h.blocks_mul
  have least : Point.zero.scale s.toInt32 = .ok Point.zero := by
    refine Point.scale_eq_ok.mpr ?_
    change _ = (0 : Int) * _ ∧ _ = (0 : Int) * _ ∧ _ = (0 : Int) * _
    rw [Int.zero_mul]
    exact ⟨rfl, rfl, rfl⟩
  have shape : (g.extent.blocks s.toInt32).shape.scale s.toInt32 = .ok g.extent.shape :=
    Point.scale_eq_ok.mpr ⟨hx.symm, hy.symm, hz.symm⟩
  change (Point.zero.scale s.toInt32 >>= fun minimum =>
    (g.extent.blocks s.toInt32).shape.scale s.toInt32 >>= fun shape => _) = _
  rw [least, ok_bind, shape, ok_bind, ← h.origin]
  rfl

theorem majorantAtVoxel_eq_ok (hg : g.Complete) (h : g.extent.Tiles s.toInt32)
    (hp : p ∈ g.extent) : SupervoxelGrid.majorantAtVoxel ⟨s, majorants g s.toInt32⟩ p =
      .ok (cubeMajorant g s.toInt32 (p.quotient s.toInt32)) := by
  obtain ⟨top, htop⟩ := hg.bounded
  obtain ⟨⟨hx, -⟩, ⟨hy, -⟩, ⟨hz, -⟩⟩ := h.mem_iff.mp hp
  have found := get_majorants h hg.volume_lt (h.quotient_mem hp)
  unfold SupervoxelGrid.majorantAtVoxel
  simp only [voxelExtent_eq_ok h, lift_ok, ok_bind, Extent.contains_eq_ok htop, decide_eq_true hp,
    if_true, SupervoxelGrid.edge, h.div_eq_ok hx hy hz, found]

/-! ### Soundness and tightness -/

/-- Whether two points have the same quotients by the block size. -/
def SameBlock (s : UInt32) (p q : Point) : Prop :=
  p.x.toInt / s.toNat = q.x.toInt / s.toNat ∧ p.y.toInt / s.toNat = q.y.toInt / s.toNat ∧
    p.z.toInt / s.toNat = q.z.toInt / s.toNat

theorem quotient_eq_iff {e : Extent} (h : e.Tiles s.toInt32) (value : s.toInt32.toInt = s.toNat)
    (hp : p ∈ e) (hq : q ∈ e) :
    q.quotient s.toInt32 = p.quotient s.toInt32 ↔ SameBlock s p q := by
  obtain ⟨px, py, pz⟩ := h.quotient_toInt hp
  obtain ⟨qx, qy, qz⟩ := h.quotient_toInt hq
  rw [Point.ext_iff, ← Int32.toInt_inj, ← Int32.toInt_inj, ← Int32.toInt_inj, px, py, pz, qx, qy, qz,
    value]
  exact and_congr eq_comm (and_congr eq_comm eq_comm)

/-- Each channel of a cube's majorant is the maximum of that channel over the voxels of the cube. -/
theorem isMaximum_cubeMajorant (g : VoxelGrid) (k : Coordinate) (b : Point)
    {channel : Rgb → Single} (hc : channel ∈ Rgb.channels) :
    Single.IsMaximum ((extinctions g (Extent.cube k b)).map channel)
      (channel (cubeMajorant g k b)) :=
  Rgb.isMaximum_channel hc _

/-- A length that is not negative has the same quotient as a word and as a coordinate. -/
theorem toUInt32_of_quotient {c d : Coordinate} (value : s.toInt32.toInt = s.toNat)
    (hc : 0 ≤ c.toInt) (hd : 0 ≤ d.toInt) (h : d.toInt = c.toInt / s.toInt32.toInt) :
    d.toUInt32 = c.toUInt32 / s := by
  refine UInt32.toNat_inj.mp ?_
  obtain ⟨n, hn⟩ := Int.eq_ofNat_of_zero_le hc
  rw [UInt32.toNat_div, Coordinate.toNat_toUInt32 hc, Coordinate.toNat_toUInt32 hd, h, value, hn]
  rfl

/-- The dimensions of the majorants are the quotients of the dimensions of the grid. -/
theorem dimensions_majorants (h : g.extent.Tiles s.toInt32)
    (value : s.toInt32.toInt = s.toNat) :
    SupervoxelGrid.dimensions ⟨s, majorants g s.toInt32⟩ =
      ⟨g.dimensions.width / s, g.dimensions.height / s, g.dimensions.depth / s⟩ := by
  obtain ⟨hx, hy, hz⟩ := h.blocks_shape
  obtain ⟨px, py, pz⟩ := h.positive
  obtain ⟨bx, by', bz⟩ := h.blocks_positive
  have width := toUInt32_of_quotient value (Int.le_of_lt px) (Int.le_of_lt bx) hx
  have height := toUInt32_of_quotient value (Int.le_of_lt py) (Int.le_of_lt by') hy
  have depth := toUInt32_of_quotient value (Int.le_of_lt pz) (Int.le_of_lt bz) hz
  exact congr (congr (congrArg Dimensions.mk width) height) depth

/-- A channel of the majorant of a voxel's cube bounds that channel over the block of the voxel and
is attained there. -/
theorem channel_cubeMajorant (hg : g.Complete) (h : g.extent.Tiles s.toInt32)
    (value : s.toInt32.toInt = s.toNat) (hp : p ∈ g.extent) {channel : Rgb → Single}
    (hc : channel ∈ Rgb.channels) {m : Rgb}
    (hm : m = cubeMajorant g s.toInt32 (p.quotient s.toInt32)) :
    (channel m).isNaN = false ∧
      ((channel (g.valueAt p).sigmaT).isNaN = false →
        (channel (g.valueAt p).sigmaT).le (channel m) = true) ∧
      ((∃ q ∈ g.extent, SameBlock s p q ∧ ∃ w, g.get q = .ok w ∧
          (channel m).equal (channel w.sigmaT) = true) ∨
        (channel m = Single.negativeInfinity ∧ ∀ q ∈ g.extent, SameBlock s p q →
          ∃ w, g.get q = .ok w ∧ (channel w.sigmaT).isNaN = true)) := by
  subst hm
  have block := h.quotient_mem hp
  obtain ⟨number, bound, attained⟩ :=
    isMaximum_cubeMajorant g s.toInt32 (p.quotient s.toInt32) hc
  have seen {q : Point} (hq : q ∈ g.extent) (hpq : SameBlock s p q) :
      channel (g.valueAt q).sigmaT ∈
        (extinctions g (Extent.cube s.toInt32 (p.quotient s.toInt32))).map channel :=
    List.mem_map_of_mem ((mem_extinctions h block).mpr
      ⟨q, hq, (quotient_eq_iff h value hp hq).mpr hpq, rfl⟩)
  refine ⟨number, bound _ (seen hp ⟨rfl, rfl, rfl⟩), ?_⟩
  rcases attained with ⟨_, reached, heq⟩ | ⟨least, none⟩
  · obtain ⟨_, hmem, rfl⟩ := List.mem_map.mp reached
    obtain ⟨q, hq, hqb, rfl⟩ := (mem_extinctions h block).mp hmem
    exact .inl ⟨q, hq, (quotient_eq_iff h value hp hq).mp hqb, _,
      Grid.get_eq_valueAt hg hq, heq⟩
  · exact .inr ⟨least, fun q hq hpq => ⟨_, Grid.get_eq_valueAt hg hq, none _ (seen hq hpq)⟩⟩

/-- The majorants of a grid at the origin for a block size that divides its dimensions: they exist,
each bounds the extinctions of its block, and each is one of them. -/
theorem build_sound_and_tight (origin : g.extent.minimum = Point.zero)
    (positive : g.extent.Positive) (full : g.values.size = g.extent.volume)
    (room : 36 * g.extent.volume ≤ 2 ^ 63 - 1)
    (divides : s.toNat ∣ g.extent.width ∧ s.toNat ∣ g.extent.height ∧ s.toNat ∣ g.extent.depth) :
    ∃ sv, build g s = .ok sv ∧ sv.dimensions =
        ⟨g.dimensions.width / s, g.dimensions.height / s, g.dimensions.depth / s⟩ ∧
      ∀ p ∈ g.extent, ∃ v m, g.get p = .ok v ∧ sv.majorantAtVoxel p = .ok m ∧
        ∀ channel ∈ Rgb.channels, (channel m).isNaN = false ∧
          ((channel v.sigmaT).isNaN = false → (channel v.sigmaT).le (channel m) = true) ∧
          ((∃ q ∈ g.extent, SameBlock s p q ∧ ∃ w, g.get q = .ok w ∧
              (channel m).equal (channel w.sigmaT) = true) ∨
            (channel m = Single.negativeInfinity ∧ ∀ q ∈ g.extent, SameBlock s p q →
              ∃ w, g.get q = .ok w ∧ (channel w.sigmaT).isNaN = true)) := by
  have small : g.extent.volume < Size.bound := by unfold Size.bound; omega
  have complete : g.Complete := ⟨positive, ⟨_, Extent.leastUpperBound_of_origin origin⟩, full,
    full ▸ small⟩
  obtain ⟨edge, value, tiles⟩ := tiles_of_dvd origin positive divides
  have built := build_eq_ok (s := s) complete (edge ▸ tiles) room
  rw [edge] at built
  refine ⟨_, built, dimensions_majorants tiles value, fun p hp => ?_⟩
  exact ⟨_, _, Grid.get_eq_valueAt complete hp, majorantAtVoxel_eq_ok complete tiles hp,
    fun channel hc => channel_cubeMajorant complete tiles value hp hc rfl⟩

/-- Two cubes of edge two. Red runs through words of all kinds, green is never a number. -/
def twoCubes : VoxelGrid :=
  ⟨Extent.ofShape ⟨4, 2, 2⟩, ((List.range 16).map fun n =>
    (⟨⟨⟨UInt32.ofNat (n * 300000000)⟩, .nan, .negativeInfinity⟩, .zero, .zero⟩ : Voxel)).toArray⟩

/-- A grid of two blocks, with values that are not numbers. -/
theorem build_sound_and_tight_with_nan :
    (twoCubes.extent.minimum = Point.zero ∧ twoCubes.extent.Positive ∧
      twoCubes.values.size = twoCubes.extent.volume ∧ 36 * twoCubes.extent.volume ≤ 2 ^ 63 - 1 ∧
      (2 : UInt32).toNat ∣ twoCubes.extent.width ∧ (2 : UInt32).toNat ∣ twoCubes.extent.height ∧
      (2 : UInt32).toNat ∣ twoCubes.extent.depth) ∧
    ∃ sv, build twoCubes 2 = .ok sv ∧ sv.dimensions = ⟨2, 1, 1⟩ ∧
      ∀ p ∈ twoCubes.extent, ∃ v m, twoCubes.get p = .ok v ∧ sv.majorantAtVoxel p = .ok m ∧
        m.r.isNaN = false ∧ (v.sigmaT.r.isNaN = false → v.sigmaT.r.le m.r = true) := by
  have origin : twoCubes.extent.minimum = Point.zero := rfl
  have positive : twoCubes.extent.Positive := ⟨by decide, by decide, by decide⟩
  have full : twoCubes.values.size = twoCubes.extent.volume := by decide
  have room : 36 * twoCubes.extent.volume ≤ 2 ^ 63 - 1 := by decide
  have divides : (2 : UInt32).toNat ∣ twoCubes.extent.width ∧
      (2 : UInt32).toNat ∣ twoCubes.extent.height ∧ (2 : UInt32).toNat ∣ twoCubes.extent.depth :=
    ⟨⟨2, rfl⟩, ⟨1, rfl⟩, ⟨1, rfl⟩⟩
  refine ⟨⟨origin, positive, full, room, divides⟩, ?_⟩
  obtain ⟨sv, built, dimensions, bounds⟩ :=
    build_sound_and_tight origin positive full room divides
  refine ⟨sv, built, dimensions, fun p hp => ?_⟩
  obtain ⟨v, m, hv, hm, channels⟩ := bounds p hp
  obtain ⟨number, bound, -⟩ := channels Rgb.r List.mem_cons_self
  exact ⟨v, m, hv, hm, number, bound⟩

end Majorant

end DenseMedium
