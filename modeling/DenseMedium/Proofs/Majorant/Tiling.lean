import DenseMedium.Majorant
import DenseMedium.Proofs.Lattice.Walks

/-!
Cubes that tile an extent.

An extent at the origin whose lengths are multiples of an edge is cut into cubes of that edge. A cube
has a coordinate, the common quotient of its points by the edge, and the coordinates make an extent
of their own, `Extent.blocks`.

* `Tiles.untileableAxis_eq_ok`, `Tiles.blockGrid_eq_ok`: the builder finds no axis to refuse, and
  finds that extent of coordinates.
* `add_localBlock`: the numbers that the builder counts blocks with are those of the canonical order.
* `Tiles.mem_cube`: the cube at a coordinate holds the points of the extent with that quotient.
-/

namespace DenseMedium

/-! ### Coordinates of cubes -/

namespace Point

/-- The coordinate of the cube of edge `k` that a point lies in. -/
def quotient (p : Point) (k : Coordinate) : Point :=
  ⟨Int32.ofInt (p.x.toInt / k.toInt), Int32.ofInt (p.y.toInt / k.toInt),
    Int32.ofInt (p.z.toInt / k.toInt)⟩

end Point

namespace Extent

/-- The coordinates of the cubes of edge `k` that tile an extent at the origin. -/
def blocks (e : Extent) (k : Coordinate) : Extent := ofShape (e.shape.quotient k)

/-- The cube of edge `k` at a coordinate. -/
def cube (k : Coordinate) (b : Point) : Extent :=
  ⟨⟨Int32.ofInt (b.x.toInt * k.toInt), Int32.ofInt (b.y.toInt * k.toInt),
    Int32.ofInt (b.z.toInt * k.toInt)⟩, Point.fill k⟩

/-- Whether cubes of edge `k` tile an extent at the origin. -/
structure Tiles (e : Extent) (k : Coordinate) : Prop where
  origin : e.minimum = Point.zero
  positive : e.Positive
  edge_pos : 0 < k.toInt
  x : k.toInt ∣ e.shape.x.toInt
  y : k.toInt ∣ e.shape.y.toInt
  z : k.toInt ∣ e.shape.z.toInt

/-- The quotient of a length or component that is not negative is a coordinate. -/
theorem toInt_quotient {c k : Coordinate} (hc : 0 ≤ c.toInt) (hk : 0 < k.toInt) :
    (Int32.ofInt (c.toInt / k.toInt)).toInt = c.toInt / k.toInt := by
  have low := Int.ediv_nonneg hc (Int.le_of_lt hk)
  have high := Int.ediv_le_self k.toInt hc
  have := (Coordinate.fits_toInt c).2
  exact Coordinate.toInt_ofInt ⟨by omega, by omega⟩

/-- The number of a block in the order of the builder is its number in canonical order, wherever the
blocks lie. -/
theorem add_localBlock {blocks : Extent} (nonnegative : blocks.Nonnegative) {top : Point}
    (htop : blocks.leastUpperBound = .ok top) {n : Nat} (hn : n < blocks.volume) :
    blocks.minimum.add (Majorant.localBlock blocks.shape (blocks.width * blocks.height) n) =
      .ok (blocks.pointAt n) := by
  have parts : Majorant.localBlock blocks.shape (blocks.width * blocks.height) n =
      (ofShape blocks.shape).pointAt n := by
    unfold Majorant.localBlock
    rw [Coordinate.toSize_of_nonneg nonnegative.1, pointAt_ofShape]
    rfl
  have origin : (ofShape blocks.shape).leastUpperBound = .ok blocks.shape :=
    leastUpperBound_of_origin rfl
  obtain ⟨px, py, pz⟩ := toInt_pointAt htop hn
  obtain ⟨qx, qy, qz⟩ := toInt_pointAt (n := n) origin hn
  rw [Point.add_eq_ok, parts, px, py, pz, qx, qy, qz]
  have zero (c : Nat) : (ofShape blocks.shape).minimum.x.toInt + c = c := Int.zero_add _
  exact ⟨congrArg _ (zero _).symm, congrArg _ (zero _).symm, congrArg _ (zero _).symm⟩

namespace Tiles

variable {e : Extent} {k : Coordinate} {b p : Point} {n : Nat}

theorem edge_ne_zero (h : e.Tiles k) : k ≠ 0 := by
  rintro rfl
  exact absurd h.edge_pos (by decide)

theorem minimum_toInt (h : e.Tiles k) :
    e.minimum.x.toInt = 0 ∧ e.minimum.y.toInt = 0 ∧ e.minimum.z.toInt = 0 := by
  rw [h.origin]
  exact ⟨rfl, rfl, rfl⟩

/-- The points of a tiled extent: no component is negative. -/
theorem mem_iff (h : e.Tiles k) : p ∈ e ↔
    (0 ≤ p.x.toInt ∧ p.x.toInt < e.shape.x.toInt) ∧ (0 ≤ p.y.toInt ∧ p.y.toInt < e.shape.y.toInt) ∧
      (0 ≤ p.z.toInt ∧ p.z.toInt < e.shape.z.toInt) := mem_of_origin h.origin

theorem div_eq_ok (h : e.Tiles k) (hx : 0 ≤ p.x.toInt) (hy : 0 ≤ p.y.toInt) (hz : 0 ≤ p.z.toInt) :
    p.div k = .ok (p.quotient k) := by
  refine (Point.div_eq_ok h.edge_ne_zero).mpr ?_
  unfold Point.quotient
  rw [toInt_quotient hx h.edge_pos, toInt_quotient hy h.edge_pos, toInt_quotient hz h.edge_pos,
    Int.tdiv_eq_ediv_of_nonneg hx, Int.tdiv_eq_ediv_of_nonneg hy, Int.tdiv_eq_ediv_of_nonneg hz]
  exact ⟨rfl, rfl, rfl⟩

/-! ### The extent of coordinates -/

theorem blocks_shape (h : e.Tiles k) :
    (e.blocks k).shape.x.toInt = e.shape.x.toInt / k.toInt ∧
      (e.blocks k).shape.y.toInt = e.shape.y.toInt / k.toInt ∧
      (e.blocks k).shape.z.toInt = e.shape.z.toInt / k.toInt := by
  obtain ⟨hx, hy, hz⟩ := h.positive
  exact ⟨toInt_quotient (Int.le_of_lt hx) h.edge_pos, toInt_quotient (Int.le_of_lt hy) h.edge_pos,
    toInt_quotient (Int.le_of_lt hz) h.edge_pos⟩

/-- The lengths of the extent, counted in cubes. -/
theorem blocks_mul (h : e.Tiles k) :
    (e.blocks k).shape.x.toInt * k.toInt = e.shape.x.toInt ∧
      (e.blocks k).shape.y.toInt * k.toInt = e.shape.y.toInt ∧
      (e.blocks k).shape.z.toInt * k.toInt = e.shape.z.toInt := by
  obtain ⟨hx, hy, hz⟩ := h.blocks_shape
  rw [hx, hy, hz]
  exact ⟨Int.ediv_mul_cancel h.x, Int.ediv_mul_cancel h.y, Int.ediv_mul_cancel h.z⟩

theorem blocks_positive (h : e.Tiles k) : (e.blocks k).Positive := by
  obtain ⟨hx, hy, hz⟩ := h.blocks_mul
  obtain ⟨px, py, pz⟩ := h.positive
  have edge := h.edge_pos
  exact ⟨Int.pos_of_mul_pos_left (hx ▸ px) edge, Int.pos_of_mul_pos_left (hy ▸ py) edge,
    Int.pos_of_mul_pos_left (hz ▸ pz) edge⟩

/-- There are at most as many cubes as points. -/
theorem volume_blocks_le (h : e.Tiles k) : (e.blocks k).volume ≤ e.volume := by
  obtain ⟨hx, hy, hz⟩ := h.blocks_shape
  obtain ⟨px, py, pz⟩ := h.positive
  have le {a : Int} (ha : 0 < a) : (a / k.toInt).toNat ≤ a.toNat :=
    Int.toNat_le_toNat (Int.ediv_le_self k.toInt (Int.le_of_lt ha))
  unfold volume width height depth
  rw [hx, hy, hz]
  exact Nat.mul_le_mul (le px) (Nat.mul_le_mul (le py) (le pz))

theorem untileableAxis_eq_ok (h : e.Tiles k) : e.untileableAxis k = .ok none := by
  unfold untileableAxis Point.firstAxisNotMultipleOf
  simp only [Axis.all, Point.firstNonMultiple, Point.component,
    Coordinate.isMultiple_of_pos h.edge_pos, ok_bind, decide_eq_true h.x, decide_eq_true h.y,
    decide_eq_true h.z, if_true]

theorem blockGrid_eq_ok (h : e.Tiles k) : Majorant.blockGrid e k = .ok (e.blocks k) := by
  obtain ⟨hx, hy, hz⟩ := h.positive
  have least : Point.zero.div k = .ok Point.zero := by
    refine (Point.div_eq_ok h.edge_ne_zero).mpr ?_
    change _ = (0 : Int).tdiv _ ∧ _ = (0 : Int).tdiv _ ∧ _ = (0 : Int).tdiv _
    rw [Int.zero_tdiv]
    exact ⟨rfl, rfl, rfl⟩
  unfold Majorant.blockGrid
  rw [h.div_eq_ok (Int.le_of_lt hx) (Int.le_of_lt hy) (Int.le_of_lt hz), ok_bind, h.origin, least,
    ok_bind, pure_eq_ok]
  rfl

theorem mem_blocks (h : e.Tiles k) : b ∈ e.blocks k ↔
    (0 ≤ b.x.toInt ∧ b.x.toInt < e.shape.x.toInt / k.toInt) ∧
      (0 ≤ b.y.toInt ∧ b.y.toInt < e.shape.y.toInt / k.toInt) ∧
      (0 ≤ b.z.toInt ∧ b.z.toInt < e.shape.z.toInt / k.toInt) := by
  obtain ⟨hx, hy, hz⟩ := h.blocks_shape
  rw [mem_def, hx, hy, hz]
  change Within 0 _ _ ∧ Within 0 _ _ ∧ Within 0 _ _ ↔ _
  unfold Within
  rw [Int.zero_add, Int.zero_add, Int.zero_add]

theorem quotient_toInt (h : e.Tiles k) (hp : p ∈ e) :
    (p.quotient k).x.toInt = p.x.toInt / k.toInt ∧ (p.quotient k).y.toInt = p.y.toInt / k.toInt ∧
      (p.quotient k).z.toInt = p.z.toInt / k.toInt := by
  obtain ⟨⟨hx, -⟩, ⟨hy, -⟩, ⟨hz, -⟩⟩ := h.mem_iff.mp hp
  exact ⟨toInt_quotient hx h.edge_pos, toInt_quotient hy h.edge_pos, toInt_quotient hz h.edge_pos⟩

theorem quotient_mem (h : e.Tiles k) (hp : p ∈ e) : p.quotient k ∈ e.blocks k := by
  obtain ⟨hx, hy, hz⟩ := h.quotient_toInt hp
  obtain ⟨⟨x0, x1⟩, ⟨y0, y1⟩, ⟨z0, z1⟩⟩ := h.mem_iff.mp hp
  have quotient_range {c d : Int} (h0 : 0 ≤ c) (h1 : c < d) (hd : k.toInt ∣ d) :
      0 ≤ c / k.toInt ∧ c / k.toInt < d / k.toInt := by
    refine ⟨Int.ediv_nonneg h0 (Int.le_of_lt h.edge_pos), ?_⟩
    rw [Int.ediv_lt_iff_lt_mul h.edge_pos, Int.ediv_mul_cancel hd]
    exact h1
  rw [h.mem_blocks, hx, hy, hz]
  exact ⟨quotient_range x0 x1 h.x, quotient_range y0 y1 h.y, quotient_range z0 z1 h.z⟩

/-! ### Cubes -/

/-- The cube at a coordinate: on each axis it ends where the extent ends or before. -/
theorem cube_axis (h : e.Tiles k) {c length : Coordinate} (h0 : 0 ≤ c.toInt)
    (h1 : c.toInt < length.toInt / k.toInt) :
    (Int32.ofInt (c.toInt * k.toInt)).toInt = c.toInt * k.toInt ∧ 0 ≤ c.toInt * k.toInt ∧
      c.toInt * k.toInt + k.toInt ≤ length.toInt := by
  have start := Int.mul_nonneg h0 (Int.le_of_lt h.edge_pos)
  have stop : c.toInt * k.toInt + k.toInt ≤ length.toInt := by
    have next := (Int.le_ediv_iff_mul_le h.edge_pos).mp (Int.add_one_le_iff.mpr h1)
    rwa [Int.add_mul, Int.one_mul] at next
  have := (Coordinate.fits_toInt length).2
  have := h.edge_pos
  exact ⟨Coordinate.toInt_ofInt ⟨by omega, by omega⟩, start, stop⟩

theorem scale_eq_ok (h : e.Tiles k) (hb : b ∈ e.blocks k) : b.scale k = .ok (cube k b).minimum := by
  obtain ⟨⟨x0, x1⟩, ⟨y0, y1⟩, ⟨z0, z1⟩⟩ := h.mem_blocks.mp hb
  exact Point.scale_eq_ok.mpr ⟨(h.cube_axis x0 x1).1, (h.cube_axis y0 y1).1, (h.cube_axis z0 z1).1⟩

theorem cube_inside (h : e.Tiles k) (hb : b ∈ e.blocks k) : (cube k b).Inside e := by
  obtain ⟨⟨x0, x1⟩, ⟨y0, y1⟩, ⟨z0, z1⟩⟩ := h.mem_blocks.mp hb
  obtain ⟨xe, xs, xt⟩ := h.cube_axis x0 x1
  obtain ⟨ye, ys, yt⟩ := h.cube_axis y0 y1
  obtain ⟨ze, zs, zt⟩ := h.cube_axis z0 z1
  obtain ⟨mx, my, mz⟩ := h.minimum_toInt
  have edge := h.edge_pos
  unfold cube
  refine ⟨⟨edge, edge, edge⟩, ?_, ?_, ?_⟩ <;> simp only [Point.fill] <;> omega

theorem cube_leastUpperBound (h : e.Tiles k) (hb : b ∈ e.blocks k) :
    ∃ top, (cube k b).leastUpperBound = .ok top := by
  obtain ⟨-, ⟨xs, xt⟩, ⟨ys, yt⟩, ⟨zs, zt⟩⟩ := h.cube_inside hb
  obtain ⟨mx, my, mz⟩ := h.minimum_toInt
  have edge := h.edge_pos
  have top {a length : Coordinate} {least : Int} (hl : least = 0) (h0 : least ≤ a.toInt)
      (h1 : a.toInt + k.toInt ≤ least + length.toInt) :
      (Int32.ofInt (a.toInt + k.toInt)).toInt = a.toInt + k.toInt := by
    have := (Coordinate.fits_toInt length).2
    exact Coordinate.toInt_ofInt ⟨by omega, by omega⟩
  exact ⟨⟨_, _, _⟩, leastUpperBound_eq_ok.mpr ⟨top mx xs xt, top my ys yt, top mz zs zt⟩⟩

/-- The points of the cube at a coordinate are those with that quotient. -/
theorem mem_cube (h : e.Tiles k) (hb : b ∈ e.blocks k) :
    p ∈ cube k b ↔ p ∈ e ∧ p.quotient k = b := by
  have inside := h.cube_inside hb
  obtain ⟨⟨x0, x1⟩, ⟨y0, y1⟩, ⟨z0, z1⟩⟩ := h.mem_blocks.mp hb
  have axis {c q least : Coordinate} (hl : least.toInt = c.toInt * k.toInt) :
      Within least.toInt k.toInt q.toInt ↔ q.toInt / k.toInt = c.toInt := by
    rw [hl]
    unfold Within
    rw [← Int.le_ediv_iff_mul_le h.edge_pos,
      show c.toInt * k.toInt + k.toInt = (c.toInt + 1) * k.toInt by rw [Int.add_mul, Int.one_mul],
      ← Int.ediv_lt_iff_lt_mul h.edge_pos]
    omega
  have quotients : p ∈ cube k b ↔ p.x.toInt / k.toInt = b.x.toInt ∧
      p.y.toInt / k.toInt = b.y.toInt ∧ p.z.toInt / k.toInt = b.z.toInt := by
    rw [mem_def]
    exact and_congr (axis (h.cube_axis x0 x1).1) (and_congr (axis (h.cube_axis y0 y1).1)
      (axis (h.cube_axis z0 z1).1))
  constructor
  · intro hp
    have hpe := inside.mem hp
    obtain ⟨qx, qy, qz⟩ := h.quotient_toInt hpe
    obtain ⟨hx, hy, hz⟩ := quotients.mp hp
    exact ⟨hpe, Point.ext (Coordinate.eq_of_toInt (qx.trans hx))
      (Coordinate.eq_of_toInt (qy.trans hy)) (Coordinate.eq_of_toInt (qz.trans hz))⟩
  · rintro ⟨hpe, rfl⟩
    obtain ⟨qx, qy, qz⟩ := h.quotient_toInt hpe
    exact quotients.mpr ⟨qx.symm, qy.symm, qz.symm⟩

end Tiles

end Extent

end DenseMedium
