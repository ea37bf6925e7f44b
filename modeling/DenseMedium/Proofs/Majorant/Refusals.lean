import DenseMedium.Proofs.Majorant.Cover
import DenseMedium.Proofs.Majorant.Hierarchy

/-!
What the builder of majorants answers for sizes that do not tile.

* `Coordinate.isMultiple_of_nonneg`, `Point.firstNonMultiple_cases`: the check of the axes ends for
  every edge that is not negative, with the first axis that the edge does not divide if there is
  one.
* `tilingEdge_divides_iff`: the edge divides a length as a coordinate exactly when the block size
  divides it as a word. An edge of zero divides nothing. So a size that is no coordinate is refused
  together with zero, and a size above every length is refused in either case.
* `build_total`: over a full grid at the origin the builder ends for every block size with a grid of
  majorants or with the refusal of an axis. None of its steps overflows, divides by zero or runs out
  of an array.
* `build_tiles_or_refuses`: which of the two it is, and for which axis.
-/

namespace DenseMedium

namespace Coordinate

/-- Zero divides nothing, not even zero. -/
theorem isMultiple_of_nonneg {a b : Coordinate} (hb : 0 ≤ b.toInt) :
    isMultiple a b = .ok (decide (0 < b.toInt ∧ b.toInt ∣ a.toInt)) := by
  rcases Int.lt_or_eq_of_le hb with pos | zero
  · rw [isMultiple_of_pos pos]
    simp only [pos, true_and]
  · cases eq_of_toInt (a := b) (b := 0) zero.symm
    rfl

end Coordinate

/-- The check of the axes ends, with the first axis that the edge does not divide. -/
theorem Point.firstNonMultiple_cases {p : Point} {k : Coordinate} (hk : 0 ≤ k.toInt) :
    ∀ axes, (p.firstNonMultiple k axes = .ok none ∧
        ∀ a ∈ axes, 0 < k.toInt ∧ k.toInt ∣ (p.component a).toInt) ∨
      ∃ axis, p.firstNonMultiple k axes = .ok (some axis) ∧
        FirstNot (fun a => 0 < k.toInt ∧ k.toInt ∣ (p.component a).toInt) axis axes
  | [] => .inl ⟨rfl, nofun⟩
  | a :: axes => by
      have head := Coordinate.isMultiple_of_nonneg (a := p.component a) hk
      unfold firstNonMultiple
      rw [head, ok_bind]
      by_cases good : 0 < k.toInt ∧ k.toInt ∣ (p.component a).toInt
      · rw [decide_eq_true good, if_pos rfl]
        rcases firstNonMultiple_cases hk axes with ⟨none, all⟩ | ⟨axis, some, first⟩
        · exact .inl ⟨none, List.forall_mem_cons.mpr ⟨good, all⟩⟩
        · obtain ⟨before, after, rfl, earlier, bad⟩ := first
          refine .inr ⟨axis, some, a :: before, after, rfl, ?_, bad⟩
          exact List.forall_mem_cons.mpr ⟨good, earlier⟩
      · rw [decide_eq_false good, if_neg Bool.false_ne_true]
        exact .inr ⟨a, rfl, [], axes, rfl, nofun, good⟩

namespace Majorant

variable {g : VoxelGrid} {s : UInt32}

/-! ### The edge and the block size -/

theorem tilingEdge_nonneg (s : UInt32) : 0 ≤ (tilingEdge s).toInt := by
  unfold tilingEdge
  split
  · rename_i small
    rw [Coordinate.toInt_toInt32 (UInt32.lt_iff_toNat_lt.mp small)]
    exact Int.natCast_nonneg _
  · exact Int.le_refl _

/-- A length is a multiple of the edge exactly when it is one of the block size, and the block size
is a coordinate. -/
theorem tilingEdge_divides_length {c : Coordinate} (hc : 0 ≤ c.toInt) :
    (0 < (tilingEdge s).toInt ∧ (tilingEdge s).toInt ∣ c.toInt) ↔
      0 < s.toNat ∧ s.toNat < 2 ^ 31 ∧ s.toNat ∣ c.toInt.toNat := by
  obtain ⟨n, hn⟩ := Int.eq_ofNat_of_zero_le hc
  rw [hn, Int.toNat_natCast]
  by_cases small : s.toNat < 2147483648
  · have edge : tilingEdge s = s.toInt32 := if_pos (UInt32.lt_iff_toNat_lt.mpr small)
    rw [edge, Coordinate.toInt_toInt32 small, Int.natCast_pos, Int.natCast_dvd_natCast]
    exact and_congr_right fun _ => (and_iff_right small).symm
  · have edge : tilingEdge s = 0 := if_neg fun h => small (UInt32.lt_iff_toNat_lt.mp h)
    rw [edge, Coordinate.toInt_zero]
    exact iff_of_false (fun h => Int.lt_irrefl 0 h.1) fun h => small h.2.1

theorem tilingEdge_divides_iff {c : Coordinate} (hc : 0 < c.toInt) :
    (0 < (tilingEdge s).toInt ∧ (tilingEdge s).toInt ∣ c.toInt) ↔
      0 < s.toNat ∧ s.toNat ∣ c.toUInt32.toNat := by
  rw [tilingEdge_divides_length (Int.le_of_lt hc), Coordinate.toNat_toUInt32 (Int.le_of_lt hc)]
  refine and_congr_right fun _ => ⟨And.right, fun divides => ⟨?_, divides⟩⟩
  -- No length is as large as a size that is no coordinate.
  have high := (Coordinate.fits_toInt c).2
  have le := Nat.le_of_dvd (by omega) divides
  omega

/-- A block size that is positive and divides the size of a grid along an axis. -/
def FitsAlong (g : VoxelGrid) (s : UInt32) (axis : Axis) : Prop :=
  0 < s.toNat ∧ s.toNat ∣ (g.dimensions.along axis).toNat

theorem fitsAlong_iff (positive : g.extent.Positive) (axis : Axis) :
    (0 < (tilingEdge s).toInt ∧ (tilingEdge s).toInt ∣ (g.extent.shape.component axis).toInt) ↔
      FitsAlong g s axis := by
  cases axis with
  | x => exact tilingEdge_divides_iff positive.1
  | y => exact tilingEdge_divides_iff positive.2.1
  | z => exact tilingEdge_divides_iff positive.2.2

theorem forall_fitsAlong_iff (positive : g.extent.Positive) :
    (∀ axis ∈ Axis.all, FitsAlong g s axis) ↔ 0 < s.toNat ∧ Divides s.toNat g.extent := by
  have length {c : Coordinate} (hc : 0 < c.toInt) : c.toUInt32.toNat = c.toInt.toNat :=
    Coordinate.toNat_toUInt32 (Int.le_of_lt hc)
  obtain ⟨hx, hy, hz⟩ := positive
  have x : (g.dimensions.along .x).toNat = g.extent.width := length hx
  have y : (g.dimensions.along .y).toNat = g.extent.height := length hy
  have z : (g.dimensions.along .z).toNat = g.extent.depth := length hz
  unfold FitsAlong Divides Axis.all
  simp only [List.forall_mem_cons, List.not_mem_nil, false_imp_iff, implies_true, and_true, x, y, z]
  constructor
  · rintro ⟨⟨pos, dx⟩, ⟨-, dy⟩, ⟨-, dz⟩⟩
    exact ⟨pos, dx, dy, dz⟩
  · rintro ⟨pos, dx, dy, dz⟩
    exact ⟨⟨pos, dx⟩, ⟨pos, dy⟩, ⟨pos, dz⟩⟩

/-! ### The two answers -/

theorem build_of_untileable {axis : Axis}
    (h : g.extent.untileableAxis (tilingEdge s) = .ok (some axis)) :
    build g s = refuse (.indivisibleDimension axis (g.dimensions.along axis) s) := by
  unfold build
  simp only [h, lift_ok, ok_bind]

/-- The builder ends with a grid of majorants, or refuses an axis. -/
theorem build_total (hg : g.Complete) (origin : g.extent.minimum = Point.zero)
    (fits : Cell.width Rgb * g.extent.volume ≤ Size.maxBytes) (s : UInt32) :
    (∃ sv, build g s = .ok sv) ∨
      ∃ axis, build g s = refuse (.indivisibleDimension axis (g.dimensions.along axis) s) := by
  rcases Point.firstNonMultiple_cases (p := g.extent.shape) (tilingEdge_nonneg s) Axis.all with
    ⟨tileable, -⟩ | ⟨axis, untileable, -⟩
  · have found : g.extent.untileableAxis (tilingEdge s) = .ok none := tileable
    obtain ⟨edge, edge_pos⟩ := tilingEdge_of_tileable found
    rw [edge] at found
    obtain ⟨x, y, z⟩ := multipleOf_of_tileable edge_pos found
    have tiles : g.extent.Tiles (tilingEdge s) :=
      edge ▸ ⟨origin, hg.positive, edge_pos, x, y, z⟩
    exact .inl ⟨_, build_eq_ok_of_fits hg tiles fits⟩
  · exact .inr ⟨axis, build_of_untileable untileable⟩

/-- The builder refuses the first axis that blocks of the size do not fit along. -/
theorem build_of_not_fits (positive : g.extent.Positive)
    (h : ¬ ∀ axis ∈ Axis.all, FitsAlong g s axis) :
    ∃ axis, FirstNot (FitsAlong g s) axis Axis.all ∧
      build g s = refuse (.indivisibleDimension axis (g.dimensions.along axis) s) := by
  have fits := fitsAlong_iff (s := s) positive
  rcases Point.firstNonMultiple_cases (p := g.extent.shape) (tilingEdge_nonneg s) Axis.all with
    ⟨-, all⟩ | ⟨axis, untileable, before, after, axes, earlier, bad⟩
  · exact absurd (fun axis mem => (fits axis).mp (all axis mem)) h
  · have earlier' : ∀ a ∈ before, FitsAlong g s a := fun a mem => (fits a).mp (earlier a mem)
    have bad' : ¬ FitsAlong g s axis := fun good => bad ((fits axis).mpr good)
    exact ⟨axis, ⟨before, after, axes, earlier', bad'⟩, build_of_untileable untileable⟩

/-- The number of blocks. -/
theorem volume_blocks (tiles : g.extent.Tiles s.toInt32) (value : s.toInt32.toInt = s.toNat) :
    (g.extent.blocks s.toInt32).volume =
      (g.extent.width / s.toNat) * (g.extent.height / s.toNat) * (g.extent.depth / s.toNat) := by
  have quotient {c d : Coordinate} (hc : 0 < c.toInt) (h : d.toInt = c.toInt / s.toInt32.toInt) :
      d.toInt.toNat = c.toInt.toNat / s.toNat := by
    obtain ⟨n, hn⟩ := Int.eq_ofNat_of_zero_le (Int.le_of_lt hc)
    rw [h, value, hn]
    rfl
  obtain ⟨hx, hy, hz⟩ := tiles.blocks_shape
  obtain ⟨px, py, pz⟩ := tiles.positive
  have width := quotient px hx
  have height := quotient py hy
  have depth := quotient pz hz
  rw [Extent.volume_eq]
  unfold Extent.width Extent.height Extent.depth
  rw [width, height, depth]

/-- The builder makes majorants exactly for the sizes that tile the grid, and refuses all others
with the first axis that the size does not divide. Block size zero is refused on the first axis. -/
theorem build_tiles_or_refuses (origin : g.extent.minimum = Point.zero)
    (positive : g.extent.Positive) (full : g.values.size = g.extent.volume)
    (room : 36 * g.extent.volume ≤ 2 ^ 63 - 1) (s : UInt32) :
    ((∃ sv, build g s = .ok sv) ↔ 0 < s.toNat ∧ Divides s.toNat g.extent) ∧
      (∀ sv, build g s = .ok sv → sv.blockSize = s ∧ sv.majorants.extent.minimum = Point.zero ∧
        sv.majorants.values.size = (g.extent.width / s.toNat) * (g.extent.height / s.toNat) *
          (g.extent.depth / s.toNat) ∧ sv.voxelExtent = .ok g.extent) ∧
      (¬ (0 < s.toNat ∧ Divides s.toNat g.extent) →
        ∃ axis, FirstNot (FitsAlong g s) axis Axis.all ∧
          build g s = refuse (.indivisibleDimension axis (g.dimensions.along axis) s)) ∧
      build g 0 = refuse (.indivisibleDimension .x g.dimensions.width 0) := by
  have small : g.extent.volume < Size.bound := by unfold Size.bound; omega
  have complete : g.Complete := ⟨positive, ⟨_, Extent.leastUpperBound_of_origin origin⟩, full,
    full ▸ small⟩
  have tiled : 0 < s.toNat ∧ Divides s.toNat g.extent →
      build g s = .ok ⟨s, majorants g s.toInt32⟩ ∧ g.extent.Tiles s.toInt32 ∧
        s.toInt32.toInt = s.toNat :=
    fun h => build_of_divides complete origin room h.2
  have refused : ¬ (0 < s.toNat ∧ Divides s.toNat g.extent) →
      ∃ axis, FirstNot (FitsAlong g s) axis Axis.all ∧
        build g s = refuse (.indivisibleDimension axis (g.dimensions.along axis) s) := by
    intro h
    rw [← forall_fitsAlong_iff positive] at h
    exact build_of_not_fits positive h
  have accepted : ∀ sv, build g s = .ok sv → 0 < s.toNat ∧ Divides s.toNat g.extent := by
    intro sv built
    by_contra h
    obtain ⟨axis, -, error⟩ := refused h
    rw [error] at built
    cases built
  refine ⟨⟨?_, ?_⟩, ?_, refused, ?_⟩
  · rintro ⟨sv, built⟩
    exact accepted sv built
  · intro h
    exact ⟨_, (tiled h).1⟩
  · intro sv built
    obtain ⟨built', tiles, value⟩ := tiled (accepted sv built)
    cases built.symm.trans built'
    have count := (size_majorants g s.toInt32).trans (volume_blocks tiles value)
    exact ⟨rfl, rfl, count, voxelExtent_eq_ok tiles⟩
  · exact build_of_untileable rfl

/-- Size two tiles a grid of 4 by 2 by 2 voxels. Four divides its width only, no length is a
multiple of three, and 2 ^ 31 + 2 is two once its sign is dropped. -/
theorem build_tiles_or_refuses_two_cubes :
    (twoCubes.extent.minimum = Point.zero ∧ twoCubes.extent.Positive ∧
      twoCubes.values.size = twoCubes.extent.volume ∧ 36 * twoCubes.extent.volume ≤ 2 ^ 63 - 1) ∧
    (∃ sv, build twoCubes 2 = .ok sv ∧ sv.majorants.values.size = 2 ∧
      sv.voxelExtent = .ok twoCubes.extent) ∧
    build twoCubes 4 = refuse (.indivisibleDimension .y 2 4) ∧
    build twoCubes 3 = refuse (.indivisibleDimension .x 4 3) ∧
    build twoCubes 2147483650 = refuse (.indivisibleDimension .x 4 2147483650) ∧
    build twoCubes 0 = refuse (.indivisibleDimension .x 4 0) := by
  have origin : twoCubes.extent.minimum = Point.zero := rfl
  have positive : twoCubes.extent.Positive := ⟨by decide, by decide, by decide⟩
  have full : twoCubes.values.size = twoCubes.extent.volume := by decide
  have room : 36 * twoCubes.extent.volume ≤ 2 ^ 63 - 1 := by decide
  have answers := build_tiles_or_refuses origin positive full room
  refine ⟨⟨origin, positive, full, room⟩, ?_, ?_, ?_, ?_, ?_⟩
  · obtain ⟨made, shape, -⟩ := answers 2
    obtain ⟨sv, built⟩ := made.mpr ⟨by decide, ⟨2, rfl⟩, ⟨1, rfl⟩, ⟨1, rfl⟩⟩
    obtain ⟨-, -, count, extent⟩ := shape sv built
    exact ⟨sv, built, count, extent⟩
  · exact build_of_untileable rfl
  · exact build_of_untileable rfl
  · exact build_of_untileable rfl
  · exact (answers 0).2.2.2

end Majorant

end DenseMedium
