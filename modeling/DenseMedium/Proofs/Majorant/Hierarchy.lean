import DenseMedium.Proofs.Majorant.Bounds

/-!
Majorants of two block sizes.

Blocks of an edge that is a multiple of another are made of blocks of the other. So a coarse majorant
is the maximum of the fine majorants in its block, coarser blocks never lower the majorant of a voxel,
and the majorant of the whole grid does not depend on the block size.

* `Tiles.nested`, `Tiles.quotient_quotient`: the fine blocks are tiled in turn, and a voxel reaches
  its coarse block in two steps.
* `Tiles.children_eq`: the fine blocks of a coarse one make a cube.
* `majorants_nested`: the statements above.

Majorants are compared by numeric equality. The sign of a majorant that is zero may depend on the
block size.
-/

namespace DenseMedium

namespace Extent

/-! ### Cubes of cubes -/

section Nested

variable {e : Extent} {a c k : Coordinate} {B b p : Point}

/-- The coordinates of the cubes of an edge make an extent that cubes of every factor tile. -/
theorem Tiles.nested (ha : e.Tiles a) (hc : e.Tiles c) (scaled : c.toInt = k.toInt * a.toInt) :
    (e.blocks a).Tiles k where
  origin := rfl
  positive := ha.blocks_positive
  edge_pos := by
    have := hc.edge_pos
    rw [scaled] at this
    exact Int.pos_of_mul_pos_left this ha.edge_pos
  x := by
    have divides := hc.x
    rw [scaled, ← ha.blocks_mul.1] at divides
    exact Int.dvd_of_mul_dvd_mul_right (Int.ne_of_gt ha.edge_pos) divides
  y := by
    have divides := hc.y
    rw [scaled, ← ha.blocks_mul.2.1] at divides
    exact Int.dvd_of_mul_dvd_mul_right (Int.ne_of_gt ha.edge_pos) divides
  z := by
    have divides := hc.z
    rw [scaled, ← ha.blocks_mul.2.2] at divides
    exact Int.dvd_of_mul_dvd_mul_right (Int.ne_of_gt ha.edge_pos) divides

/-- The coarse cube of a point is the cube of its fine cube. -/
theorem Tiles.quotient_quotient (ha : e.Tiles a) (hc : e.Tiles c)
    (scaled : c.toInt = k.toInt * a.toInt) (hp : p ∈ e) :
    (p.quotient a).quotient k = p.quotient c := by
  obtain ⟨ax, ay, az⟩ := ha.quotient_toInt hp
  obtain ⟨cx, cy, cz⟩ := hc.quotient_toInt hp
  obtain ⟨kx, ky, kz⟩ := (ha.nested hc scaled).quotient_toInt (ha.quotient_mem hp)
  have twice (n : Int) : n / a.toInt / k.toInt = n / c.toInt := by
    rw [Int.ediv_ediv_of_nonneg (Int.le_of_lt ha.edge_pos), Int.mul_comm, scaled]
  refine Point.ext (Coordinate.eq_of_toInt ?_) (Coordinate.eq_of_toInt ?_)
    (Coordinate.eq_of_toInt ?_)
  · rw [kx, ax, cx, twice]
  · rw [ky, ay, cy, twice]
  · rw [kz, az, cz, twice]

/-- Every coarse cube has a point, so its coordinate is one of the fine cubes' cubes. -/
theorem Tiles.mem_blocks_nested (ha : e.Tiles a) (hc : e.Tiles c)
    (scaled : c.toInt = k.toInt * a.toInt) (hB : B ∈ e.blocks c) :
    B ∈ (e.blocks a).blocks k := by
  obtain ⟨hp, hpB⟩ := (hc.mem_cube hB).mp (hc.cube_inside hB).minimum_mem_self
  rw [← hpB, ← ha.quotient_quotient hc scaled hp]
  exact (ha.nested hc scaled).quotient_mem (ha.quotient_mem hp)

/-- The points that division by `k` takes to `B`, in canonical order. -/
def children (e : Extent) (k : Coordinate) (B : Point) : List Point :=
  e.enumerate.filter fun b => b.div k = .ok B

theorem Tiles.mem_children (h : e.Tiles k) : b ∈ e.children k B ↔ b ∈ e ∧ b.quotient k = B := by
  rw [children, List.mem_filter, mem_enumerate (leastUpperBound_of_origin h.origin),
    decide_eq_true_eq]
  refine and_congr_right fun hb => ?_
  obtain ⟨⟨hx, -⟩, ⟨hy, -⟩, ⟨hz, -⟩⟩ := h.mem_iff.mp hb
  rw [h.div_eq_ok hx hy hz, Except.ok.injEq]

/-- They are the points of the cube at `B`. -/
theorem Tiles.children_eq (h : e.Tiles k) (hB : B ∈ e.blocks k) :
    e.children k B = (cube k B).enumerate := by
  obtain ⟨top, htop⟩ := h.cube_leastUpperBound hB
  have sorted : (e.children k B).Pairwise Point.Before :=
    (enumerate_sorted (leastUpperBound_of_origin h.origin)).filter _
  refine eq_of_sorted sorted (enumerate_sorted htop) fun b => ?_
  rw [h.mem_children, mem_enumerate htop, h.mem_cube hB]

theorem Tiles.length_children (h : e.Tiles k) (hB : B ∈ e.blocks k) :
    (e.children k B).length = k.toInt.toNat ^ 3 := by
  rw [h.children_eq hB, length_enumerate, volume_eq, Nat.pow_succ, Nat.pow_two]
  rfl

end Nested

end Extent

namespace Majorant

variable {g : VoxelGrid} {a c k : Coordinate} {s : UInt32} {B p : Point}

/-! ### Maxima of maxima -/

/-- The majorant of a coarse block is the maximum of the majorants of its fine blocks. -/
theorem equal_maximum_children (ha : g.extent.Tiles a) (hc : g.extent.Tiles c)
    (scaled : c.toInt = k.toInt * a.toInt) (hB : B ∈ g.extent.blocks c) :
    (cubeMajorant g c B).equal (Rgb.maximum
      (((g.extent.blocks a).children k B).map (cubeMajorant g a))) = true := by
  have parts : ((g.extent.blocks a).children k B).map (cubeMajorant g a) =
      (((g.extent.blocks a).children k B).map fun b =>
        extinctions g (Extent.cube a b)).map Rgb.maximum := by
    rw [List.map_map]
    rfl
  rw [parts]
  apply Rgb.equal_maximum_map
  intro v
  rw [mem_extinctions hc hB]
  constructor
  · rintro ⟨q, hq, rfl, rfl⟩
    have fine := ha.quotient_mem hq
    refine ⟨_, List.mem_map_of_mem ((ha.nested hc scaled).mem_children.mpr
      ⟨fine, ha.quotient_quotient hc scaled hq⟩), ?_⟩
    exact (mem_extinctions ha fine).mpr ⟨q, hq, rfl, rfl⟩
  · rintro ⟨_, hpart, hv⟩
    obtain ⟨b, hb, rfl⟩ := List.mem_map.mp hpart
    obtain ⟨fine, rfl⟩ := (ha.nested hc scaled).mem_children.mp hb
    obtain ⟨q, hq, rfl, rfl⟩ := (mem_extinctions ha fine).mp hv
    exact ⟨q, hq, (ha.quotient_quotient hc scaled hq).symm, rfl⟩

/-- The fine block of a voxel lies in its coarse block. -/
theorem dominates_cubeMajorant (ha : g.extent.Tiles a) (hc : g.extent.Tiles c)
    (scaled : c.toInt = k.toInt * a.toInt) (hp : p ∈ g.extent) :
    (cubeMajorant g c (p.quotient c)).dominates (cubeMajorant g a (p.quotient a)) = true := by
  apply Rgb.dominates_of_subset
  intro v hv
  obtain ⟨q, hq, same, rfl⟩ := (mem_extinctions ha (ha.quotient_mem hp)).mp hv
  refine (mem_extinctions hc (hc.quotient_mem hp)).mpr ⟨q, hq, ?_, rfl⟩
  rw [← ha.quotient_quotient hc scaled hq, same, ha.quotient_quotient hc scaled hp]

/-- The blocks of any size make up the grid. -/
theorem equal_maxExtinction (hg : g.Complete) (ha : g.extent.Tiles a) :
    g.maxExtinction.equal (Rgb.maximum (majorants g a).values.toList) = true := by
  obtain ⟨b, hb⟩ := hg.bounded
  have parts : (majorants g a).values.toList =
      ((g.extent.blocks a).enumerate.map fun b =>
        extinctions g (Extent.cube a b)).map Rgb.maximum := by
    rw [List.map_map]
    rfl
  unfold VoxelGrid.maxExtinction
  rw [parts, hg.full.values_eq, List.map_map]
  apply Rgb.equal_maximum_map
  intro v
  have origin := Extent.leastUpperBound_of_origin (e := g.extent.blocks a) rfl
  constructor
  · intro hv
    obtain ⟨q, hq, rfl⟩ := List.mem_map.mp hv
    have hq := (Extent.mem_enumerate hb).mp hq
    have block := ha.quotient_mem hq
    refine ⟨_, List.mem_map_of_mem ((Extent.mem_enumerate origin).mpr block), ?_⟩
    exact (mem_extinctions ha block).mpr ⟨q, hq, rfl, rfl⟩
  · rintro ⟨_, hpart, hv⟩
    obtain ⟨b, hb', rfl⟩ := List.mem_map.mp hpart
    obtain ⟨q, hq, -, rfl⟩ := (mem_extinctions ha ((Extent.mem_enumerate origin).mp hb')).mp hv
    exact List.mem_map.mpr ⟨q, (Extent.mem_enumerate hb).mpr hq, rfl⟩

/-! ### Two runs of the builder -/

/-- Whether a block size divides every length of an extent. -/
def Divides (n : Nat) (e : Extent) : Prop := n ∣ e.width ∧ n ∣ e.height ∧ n ∣ e.depth

/-- A multiple of a block size that divides the lengths is a block size too, and its factor is a
coordinate. -/
theorem scaled_of_divides {e : Extent} (positive : e.Positive) {k : Nat}
    (h : Divides (k * s.toNat) e) : Divides s.toNat e ∧
      (UInt32.ofNat (k * s.toNat)).toNat = k * s.toNat ∧ (Int32.ofInt k).toInt = k := by
  obtain ⟨hx, hy, hz⟩ := h
  have part {n : Nat} (h : k * s.toNat ∣ n) : s.toNat ∣ n := Nat.dvd_trans (Nat.dvd_mul_left _ _) h
  have pos : 0 < s.toNat := Nat.pos_of_dvd_of_pos (part hx) positive.width_pos
  have le := Nat.le_of_dvd positive.width_pos hx
  have factor_le := Nat.le_mul_of_pos_right k pos
  have length_le : e.width ≤ 2147483647 := by
    have := (Coordinate.fits_toInt e.shape.x).2
    unfold Extent.width
    omega
  refine ⟨⟨part hx, part hy, part hz⟩, UInt32.toNat_ofNat_of_lt' ?_, ?_⟩
  · exact Nat.lt_of_le_of_lt (Nat.le_trans le length_le) (by decide)
  · exact Coordinate.toInt_ofInt ⟨by omega, by omega⟩

/-- What the builder makes for a block size that divides the lengths. -/
theorem build_of_divides (hg : g.Complete) (origin : g.extent.minimum = Point.zero)
    (room : 36 * g.extent.volume ≤ 2 ^ 63 - 1) (divides : Divides s.toNat g.extent) :
    build g s = .ok ⟨s, majorants g s.toInt32⟩ ∧ g.extent.Tiles s.toInt32 ∧
      s.toInt32.toInt = s.toNat := by
  obtain ⟨edge, value, tiles⟩ := tiles_of_dvd origin hg.positive divides
  have built := build_eq_ok (s := s) hg (edge ▸ tiles) room
  rw [edge] at built
  exact ⟨built, tiles, value⟩

/-- Majorants of block sizes that divide each other form a hierarchy, with the greatest extinction of
the grid at its top. -/
theorem majorants_nested (origin : g.extent.minimum = Point.zero) (positive : g.extent.Positive)
    (full : g.values.size = g.extent.volume) (room : 36 * g.extent.volume ≤ 2 ^ 63 - 1) {k : Nat}
    (divides : Divides (k * s.toNat) g.extent) :
    ∃ fine coarse, build g s = .ok fine ∧ build g (UInt32.ofNat (k * s.toNat)) = .ok coarse ∧
      (∀ B ∈ coarse.majorants.extent, ∃ M ms, coarse.majorants.get B = .ok M ∧
        (fine.majorants.extent.children (Int32.ofInt k) B).mapM fine.majorants.get = .ok ms ∧
        ms.length = k ^ 3 ∧ M.equal (Rgb.maximum ms) = true) ∧
      (∀ p ∈ g.extent, ∃ m M, fine.majorantAtVoxel p = .ok m ∧ coarse.majorantAtVoxel p = .ok M ∧
        M.dominates m = true) ∧
      ∀ u : UInt32, Divides u.toNat g.extent → ∃ sv, build g u = .ok sv ∧
        sv.globalMajorant.equal fine.globalMajorant = true ∧
        sv.globalMajorant.equal g.maxExtinction = true := by
  have small : g.extent.volume < Size.bound := by unfold Size.bound; omega
  have complete : g.Complete := ⟨positive, ⟨_, Extent.leastUpperBound_of_origin origin⟩, full,
    full ▸ small⟩
  obtain ⟨part, size, factor⟩ := scaled_of_divides positive divides
  obtain ⟨fine, ha, valueA⟩ := build_of_divides complete origin room part
  rw [← size] at divides
  obtain ⟨coarse, hc, valueC⟩ := build_of_divides complete origin room divides
  have scaled : (UInt32.ofNat (k * s.toNat)).toInt32.toInt =
      (Int32.ofInt k).toInt * s.toInt32.toInt := by
    rw [valueC, size, factor, valueA, Int.natCast_mul]
  refine ⟨_, _, fine, coarse, fun B hB => ?_, fun p hp => ?_, fun u hu => ?_⟩
  · have nested := ha.nested hc scaled
    have parent := ha.mem_blocks_nested hc scaled hB
    refine ⟨_, _, get_majorants hc small hB, mapM_eq_ok_map fun b hb => ?_, ?_,
      equal_maximum_children ha hc scaled hB⟩
    · exact get_majorants ha small (nested.mem_children.mp hb).1
    · have count := nested.length_children parent
      rw [factor, Int.toNat_natCast] at count
      rw [List.length_map]
      exact count
  · exact ⟨_, _, majorantAtVoxel_eq_ok complete ha hp, majorantAtVoxel_eq_ok complete hc hp,
      dominates_cubeMajorant ha hc scaled hp⟩
  · obtain ⟨built, tiles, -⟩ := build_of_divides complete origin room hu
    have whole := Rgb.equal_symm (equal_maxExtinction complete tiles)
    exact ⟨_, built, Rgb.equal_trans whole (equal_maxExtinction complete ha), whole⟩

/-- Blocks of edge one and of edge two, with values that are not numbers. -/
theorem majorants_nested_one_in_two :
    (twoCubes.extent.minimum = Point.zero ∧ twoCubes.extent.Positive ∧
      twoCubes.values.size = twoCubes.extent.volume ∧ 36 * twoCubes.extent.volume ≤ 2 ^ 63 - 1 ∧
      Divides (2 * (1 : UInt32).toNat) twoCubes.extent) ∧
    ∃ fine coarse, build twoCubes 1 = .ok fine ∧ build twoCubes 2 = .ok coarse ∧
      (∃ M ms, coarse.majorants.get ⟨1, 0, 0⟩ = .ok M ∧
        (fine.majorants.extent.children 2 ⟨1, 0, 0⟩).mapM fine.majorants.get = .ok ms ∧
        ms.length = 8 ∧ M.equal (Rgb.maximum ms) = true) ∧
      coarse.globalMajorant.equal fine.globalMajorant = true ∧
      coarse.globalMajorant.equal twoCubes.maxExtinction = true := by
  have origin : twoCubes.extent.minimum = Point.zero := rfl
  have positive : twoCubes.extent.Positive := ⟨by decide, by decide, by decide⟩
  have full : twoCubes.values.size = twoCubes.extent.volume := by decide
  have room : 36 * twoCubes.extent.volume ≤ 2 ^ 63 - 1 := by decide
  have divides : Divides (2 * (1 : UInt32).toNat) twoCubes.extent := ⟨⟨2, rfl⟩, ⟨1, rfl⟩, ⟨1, rfl⟩⟩
  refine ⟨⟨origin, positive, full, room, divides⟩, ?_⟩
  obtain ⟨fine, coarse, hfine, hcoarse, children, -, top⟩ :=
    majorants_nested origin positive full room divides
  obtain ⟨sv, hsv, same, whole⟩ := top 2 ⟨⟨2, rfl⟩, ⟨1, rfl⟩, ⟨1, rfl⟩⟩
  rw [show UInt32.ofNat (2 * (1 : UInt32).toNat) = 2 from rfl] at hcoarse
  cases hsv.symm.trans hcoarse
  refine ⟨fine, coarse, hfine, hcoarse, children ⟨1, 0, 0⟩ ?_, same, whole⟩
  have inside : (build twoCubes 2).map (fun sv => decide (⟨1, 0, 0⟩ ∈ sv.majorants.extent)) =
      .ok true := by decide +kernel
  rw [hcoarse] at inside
  exact of_decide_eq_true (Except.ok.inj inside)

end Majorant

end DenseMedium
