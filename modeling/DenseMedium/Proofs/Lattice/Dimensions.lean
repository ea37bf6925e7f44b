import DenseMedium.Proofs.Lattice.Points

/-!
Declared dimensions and the extents they stand for.

`Extent.ofDimensions?_eq_some`: dimensions stand for an extent exactly when each of them is a
positive coordinate and their product is a size. The extent then lies at the origin and has as many
points as the product says. In the other direction `Extent.dimensions_valid` says which extents have
dimensions that stand for one.
-/

namespace DenseMedium

namespace Dimensions

/-- The number of cells that dimensions declare. -/
def cellCount (d : Dimensions) : Nat := d.width.toNat * d.height.toNat * d.depth.toNat

/-- Whether a declared dimension is a positive coordinate. -/
def IsLength (n : UInt32) : Prop := 0 < n.toNat ∧ n.toNat < 2147483648

/-- Whether dimensions stand for an extent. -/
def Valid (d : Dimensions) : Prop :=
  IsLength d.width ∧ IsLength d.height ∧ IsLength d.depth ∧ d.cellCount < Size.bound

/-- The extent at the origin with the given dimensions. -/
def extent (d : Dimensions) : Extent :=
  Extent.ofShape ⟨d.width.toInt32, d.height.toInt32, d.depth.toInt32⟩

namespace Valid

variable {d : Dimensions}

theorem shape_toInt (h : d.Valid) : d.extent.shape.x.toInt = d.width.toNat ∧
    d.extent.shape.y.toInt = d.height.toNat ∧ d.extent.shape.z.toInt = d.depth.toNat :=
  ⟨Coordinate.toInt_toInt32 h.1.2, Coordinate.toInt_toInt32 h.2.1.2,
    Coordinate.toInt_toInt32 h.2.2.1.2⟩

theorem positive (h : d.Valid) : d.extent.Positive := by
  obtain ⟨hx, hy, hz⟩ := h.shape_toInt
  obtain ⟨⟨_, _⟩, ⟨_, _⟩, ⟨_, _⟩, -⟩ := h
  exact ⟨by omega, by omega, by omega⟩

theorem width_eq (h : d.Valid) : d.extent.width = d.width.toNat := by
  have := h.shape_toInt.1
  unfold Extent.width
  omega

theorem height_eq (h : d.Valid) : d.extent.height = d.height.toNat := by
  have := h.shape_toInt.2.1
  unfold Extent.height
  omega

theorem depth_eq (h : d.Valid) : d.extent.depth = d.depth.toNat := by
  have := h.shape_toInt.2.2
  unfold Extent.depth
  omega

theorem volume_eq (h : d.Valid) : d.extent.volume = d.cellCount := by
  rw [Extent.volume_eq, h.width_eq, h.height_eq, h.depth_eq, cellCount]

theorem cellCount_pos (h : d.Valid) : 0 < d.cellCount := h.volume_eq ▸ h.positive.volume_pos

theorem leastUpperBound (d : Dimensions) : d.extent.leastUpperBound = .ok d.extent.shape :=
  Extent.leastUpperBound_of_origin rfl

end Valid

end Dimensions

namespace Extent

theorem axisLength?_eq_some {n : UInt32} {c : Coordinate} :
    axisLength? n = some c ↔ Dimensions.IsLength n ∧ c = n.toInt32 := by
  have test : (0 < n ∧ n < 2147483648) ↔ Dimensions.IsLength n := by
    rw [UInt32.lt_iff_toNat_lt, UInt32.lt_iff_toNat_lt]
    rfl
  unfold axisLength?
  rw [Option.ite_none_right_eq_some, Option.some.injEq, @eq_comm _ c, test]

/-- The points of a positive extent can be counted exactly when their number is a size. -/
theorem Positive.pointCount_eq_ok {e : Extent} (h : e.Positive) {n : Nat} :
    e.pointCount = .ok n ↔ e.volume < Size.bound ∧ n = e.volume :=
  Extent.pointCount_eq_ok h.nonnegative

theorem ofDimensions?_eq_some {d : Dimensions} {e : Extent} :
    ofDimensions? d = some e ↔ d.Valid ∧ e = d.extent := by
  simp only [ofDimensions?, Option.bind_eq_bind, Option.bind_eq_some_iff, axisLength?_eq_some,
    Option.pure_def, Option.some.injEq]
  constructor
  · rintro ⟨_, ⟨hw, rfl⟩, _, ⟨hh, rfl⟩, _, ⟨hd, rfl⟩, n, hn, rfl⟩
    have positive : d.extent.Positive := by
      have lengths {n : UInt32} (h : Dimensions.IsLength n) : 0 < n.toInt32.toInt := by
        rw [Coordinate.toInt_toInt32 h.2]
        exact Int.natCast_pos.mpr h.1
      exact ⟨lengths hw, lengths hh, lengths hd⟩
    have value {n : UInt32} (h : Dimensions.IsLength n) : n.toInt32.toInt.toNat = n.toNat := by
      rw [Coordinate.toInt_toInt32 h.2, Int.toNat_natCast]
    have count := ((pointCount?_eq_some positive.nonnegative).mp hn).1
    rw [volume_eq] at count
    refine ⟨⟨hw, hh, hd, ?_⟩, rfl⟩
    unfold Dimensions.cellCount
    rw [← value hw, ← value hh, ← value hd]
    exact count
  · rintro ⟨valid, rfl⟩
    exact ⟨_, ⟨valid.1, rfl⟩, _, ⟨valid.2.1, rfl⟩, _, ⟨valid.2.2.1, rfl⟩, _,
      (pointCount?_eq_some valid.positive.nonnegative).mpr ⟨valid.volume_eq ▸ valid.2.2.2, rfl⟩,
      rfl⟩

theorem ofDimensions?_eq_none {d : Dimensions} : ofDimensions? d = none ↔ ¬ d.Valid := by
  rw [Option.eq_none_iff_forall_ne_some]
  constructor
  · intro h valid
    exact h d.extent (ofDimensions?_eq_some.mpr ⟨valid, rfl⟩)
  · intro h e he
    exact h (ofDimensions?_eq_some.mp he).1

end Extent

theorem Dimensions.Valid.pointCount_eq_ok {d : Dimensions} (h : d.Valid) :
    d.extent.pointCount = .ok d.cellCount := by
  have volume := h.volume_eq
  exact h.positive.pointCount_eq_ok.mpr ⟨volume ▸ h.2.2.2, volume.symm⟩

/-! ### Dimensions of extents -/

theorem Dimensions.isLength_toUInt32 {c : Coordinate} :
    Dimensions.IsLength c.toUInt32 ↔ 0 < c.toInt := by
  constructor
  · intro h
    have value := Coordinate.toInt_toInt32 h.2
    rw [Int32.toInt32_toUInt32] at value
    have := h.1
    omega
  · intro h
    have value := Coordinate.toNat_toUInt32 (Int.le_of_lt h)
    have high := (Coordinate.fits_toInt c).2
    exact ⟨by omega, by omega⟩

namespace Extent

variable {e : Extent}

/-- The dimensions of an extent stand for an extent exactly when no length is zero or negative and
the points can be counted. -/
theorem dimensions_valid :
    e.dimensions.Valid ↔ e.Positive ∧ e.dimensions.cellCount < Size.bound := by
  unfold Dimensions.Valid Positive
  rw [show e.dimensions = ⟨e.shape.x.toUInt32, e.shape.y.toUInt32, e.shape.z.toUInt32⟩ from rfl,
    Dimensions.isLength_toUInt32, Dimensions.isLength_toUInt32, Dimensions.isLength_toUInt32]
  tauto

theorem extent_dimensions (e : Extent) : e.dimensions.extent = ofShape e.shape := by
  unfold Dimensions.extent dimensions
  simp only [Int32.toInt32_toUInt32]

theorem cellCount_dimensions (h : e.Positive) : e.dimensions.cellCount = e.volume := by
  obtain ⟨hx, hy, hz⟩ := h
  unfold Dimensions.cellCount dimensions
  rw [Coordinate.toNat_toUInt32 (Int.le_of_lt hx), Coordinate.toNat_toUInt32 (Int.le_of_lt hy),
    Coordinate.toNat_toUInt32 (Int.le_of_lt hz), volume_eq]
  rfl

theorem dimensions_extent (d : Dimensions) : d.extent.dimensions = d := by
  unfold Dimensions.extent ofShape dimensions
  simp only [UInt32.toUInt32_toInt32]

end Extent

end DenseMedium
