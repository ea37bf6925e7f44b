import DenseMedium.Proofs.Binary.RoundTrip
import DenseMedium.Proofs.Binary.Views
import DenseMedium.Proofs.Majorant.Cover

/-!
Majorants that were read back, paired with a block size.

A stream of majorants does not say how wide a block is: whoever reads it supplies the size. That
size is cast to a coordinate, multiplies the dimensions and divides the voxel, so it could be zero,
huge or wrapped to a negative number.

* `majorantAtVoxel_paired`: as long as the dimensions times the edge fit, the look-up answers with
  the majorant that is stored for the quotient of the voxel, or refuses the voxel as outside. A size
  that some builder made these dimensions with is such a size.
* `majorantAtVoxel_of_not_scalable`: with any other size no voxel is answered for.
-/

namespace DenseMedium

namespace Point

/-- Whether every component times `k` fits. -/
def Scalable (p : Point) (k : Coordinate) : Prop :=
  Coordinate.Fits (p.x.toInt * k.toInt) ∧ Coordinate.Fits (p.y.toInt * k.toInt) ∧
    Coordinate.Fits (p.z.toInt * k.toInt)

variable {p q : Point} {k : Coordinate}

theorem scalable_of_scale (h : p.scale k = .ok q) : p.Scalable k := by
  obtain ⟨hx, hy, hz⟩ := scale_eq_ok.mp h
  exact ⟨hx ▸ Coordinate.fits_toInt _, hy ▸ Coordinate.fits_toInt _, hz ▸ Coordinate.fits_toInt _⟩

theorem exists_scale (h : p.Scalable k) : ∃ q, p.scale k = .ok q := by
  obtain ⟨hx, hy, hz⟩ := h
  exact ⟨⟨_, _, _⟩, scale_eq_ok.mpr ⟨Coordinate.toInt_ofInt hx, Coordinate.toInt_ofInt hy,
    Coordinate.toInt_ofInt hz⟩⟩

/-- Scaling has one fault. -/
theorem scale_of_not_scalable (h : ¬ p.Scalable k) : p.scale k = .error .mulOverflow := by
  have step (a b : Coordinate) := Coordinate.ofInt_cases .mulOverflow (a.toInt * b.toInt)
  rcases zipWith_cases (p := p) (q := fill k) step with ⟨q, scaled⟩ | fault
  · exact absurd (scalable_of_scale scaled) h
  · exact fault

theorem scale_zero (k : Coordinate) : zero.scale k = .ok zero := by
  rw [scale_eq_ok]
  exact ⟨(Int.zero_mul _).symm, (Int.zero_mul _).symm, (Int.zero_mul _).symm⟩

end Point

namespace Binary

/-- What is read back lies at the origin and has a value for each point. -/
theorem complete_of_decode {α : Type} [Record α] [Cell α] {b : Bytes} {g : Grid α}
    (h : decode b = .ok g) : g.Complete ∧ g.extent.minimum = Point.zero := by
  unfold decode at h
  obtain ⟨found, hfound, h⟩ := bind_eq_ok.mp h
  obtain ⟨d, rfl, hd, -⟩ := Header.readStream_eq_ok.mp hfound
  obtain ⟨count, -, h⟩ := bind_eq_ok.mp h
  obtain ⟨-, -, h⟩ := bind_eq_ok.mp h
  split at h
  · obtain ⟨counted, rfl⟩ := Grid.ofValues_eq_ok.mp h
    obtain ⟨-, size⟩ := hd.positive.pointCount_eq_ok.mp counted
    rw [List.size_toArray, hd.volume_eq] at size
    exact ⟨complete_of_valid hd size, rfl⟩
  · cases h

end Binary

namespace SupervoxelGrid

variable {s : UInt32} {m : Grid Rgb} {p : Point}

/-! ### The covered voxels -/

/-- Blocks from the origin on cover voxels from the origin on. -/
theorem exists_voxelExtent (origin : m.extent.minimum = Point.zero)
    (scalable : m.extent.shape.Scalable s.toInt32) :
    ∃ shape, m.extent.shape.scale s.toInt32 = .ok shape ∧
      (mk s m).voxelExtent = .ok (Extent.ofShape shape) := by
  obtain ⟨shape, hshape⟩ := Point.exists_scale scalable
  refine ⟨shape, hshape, voxelExtent_eq_ok.mpr ⟨?_, hshape⟩⟩
  change m.extent.minimum.scale s.toInt32 = .ok Point.zero
  rw [origin, Point.scale_zero]

/-- A size under which blocks cover any voxel did not wrap. -/
theorem toInt_edge_of_mem {shape : Point} (positive : m.extent.Positive)
    (hshape : m.extent.shape.scale s.toInt32 = .ok shape) (hp : p ∈ Extent.ofShape shape) :
    0 < s.toInt32.toInt ∧ s.toInt32.toInt = s.toNat := by
  obtain ⟨hx, -, -⟩ := Point.scale_eq_ok.mp hshape
  have covered : 0 < shape.x.toInt := by
    obtain ⟨⟨low, high⟩, -, -⟩ := Extent.mem_def.mp hp
    change 0 ≤ p.x.toInt at low
    change p.x.toInt < 0 + shape.x.toInt at high
    omega
  have edge : 0 < s.toInt32.toInt := by
    rw [hx] at covered
    exact Int.pos_of_mul_pos_right covered positive.1
  have length := Dimensions.isLength_toUInt32.mpr edge
  rw [UInt32.toUInt32_toInt32] at length
  exact ⟨edge, Coordinate.toInt_toInt32 length.2⟩

/-- From the origin on, the look-up of a covered voxel asks the block of its quotient. -/
theorem majorantAtVoxel_of_origin (complete : m.Complete) (edge : 0 < s.toInt32.toInt)
    {shape : Point} (voxels : (mk s m).voxelExtent = .ok (Extent.ofShape shape))
    (hp : p ∈ Extent.ofShape shape) :
    p.quotient s.toInt32 ∈ m.extent ∧
      m.get (p.quotient s.toInt32) = .ok (m.valueAt (p.quotient s.toInt32)) ∧
      (mk s m).majorantAtVoxel p = m.get (p.quotient s.toInt32) := by
  obtain ⟨block, hblock⟩ := Point.exists_div (p := p) edge
  have down : p.RoundsDown s.toInt32 := by
    obtain ⟨⟨x, -⟩, ⟨y, -⟩, ⟨z, -⟩⟩ := Extent.mem_def.mp hp
    exact ⟨.inl x, .inl y, .inl z⟩
  have quotient := (Point.div_eq_quotient_iff edge hblock).mpr down
  subst quotient
  have positive : 0 < (mk s m).edge.toInt := edge
  have inside : p.quotient s.toInt32 ∈ m.extent := (mem_voxelExtent positive voxels).mp hp
  exact ⟨inside, Grid.get_eq_valueAt complete inside,
    majorantAtVoxel_of_mem voxels (Extent.leastUpperBound_of_origin rfl) hp hblock⟩

/-- A builder that made these dimensions did so with a size that the dimensions can be scaled by. -/
theorem scalable_of_build {g : VoxelGrid} {sv : SupervoxelGrid} (h : Majorant.build g s = .ok sv)
    (same : sv.dimensions = m.dimensions) : m.extent.shape.Scalable s.toInt32 := by
  have origins := congrArg Dimensions.extent same
  change sv.majorants.extent.dimensions.extent = m.extent.dimensions.extent at origins
  rw [Extent.extent_dimensions, Extent.extent_dimensions] at origins
  have shape : sv.majorants.extent.shape = m.extent.shape := (Extent.mk.inj origins).2
  obtain ⟨-, hshape⟩ := voxelExtent_eq_ok.mp (Majorant.voxelExtent_of_build h)
  obtain ⟨size, -⟩ := Majorant.steps_of_build h
  rw [shape, edge, size] at hshape
  exact Point.scalable_of_scale hshape

/-! ### The look-up -/

/-- Majorants that were read back, paired with a size by which their dimensions can be scaled: the
blocks cover the voxels from the origin to the scaled dimensions. The look-up of a covered voxel
answers with the majorant of the block whose components are the quotients of the voxel by the size,
and every other voxel is refused. Sizes that a builder made the dimensions with are among these. -/
theorem majorantAtVoxel_paired {b : Bytes} (decoded : Binary.decode b = .ok m) (s : UInt32) :
    (m.extent.shape.Scalable s.toInt32 →
      ∃ shape, m.extent.shape.scale s.toInt32 = .ok shape ∧
        (mk s m).voxelExtent = .ok (Extent.ofShape shape) ∧ ∀ p,
          (p ∈ Extent.ofShape shape → ∃ block majorant,
            block.x.toInt = p.x.toInt / s.toNat ∧ block.y.toInt = p.y.toInt / s.toNat ∧
            block.z.toInt = p.z.toInt / s.toNat ∧ block ∈ m.extent ∧ m.get block = .ok majorant ∧
            (mk s m).majorantAtVoxel p = .ok majorant) ∧
          (p ∉ Extent.ofShape shape → (mk s m).majorantAtVoxel p =
            refuse (.outOfBounds p (Extent.ofShape shape).dimensions))) ∧
      ∀ g sv, Majorant.build g s = .ok sv → sv.dimensions = m.dimensions →
        m.extent.shape.Scalable s.toInt32 := by
  obtain ⟨complete, origin⟩ := Binary.complete_of_decode decoded
  refine ⟨fun scalable => ?_, fun g sv built same => scalable_of_build built same⟩
  obtain ⟨shape, hshape, voxels⟩ := exists_voxelExtent origin scalable
  refine ⟨shape, hshape, voxels, fun p => ⟨fun hp => ?_, fun hp => ?_⟩⟩
  · obtain ⟨edge, value⟩ := toInt_edge_of_mem complete.positive hshape hp
    obtain ⟨inside, stored, found⟩ := majorantAtVoxel_of_origin complete edge voxels hp
    obtain ⟨qx, qy, qz⟩ := Point.toInt_quotient (p := p) edge
    rw [value] at qx qy qz
    exact ⟨p.quotient s.toInt32, _, qx, qy, qz, inside, stored, found.trans stored⟩
  · exact majorantAtVoxel_of_not_mem voxels (Extent.leastUpperBound_of_origin rfl) hp

/-- Two majorants side by side. -/
def sideBySide : Grid Rgb :=
  ⟨Extent.ofShape ⟨2, 1, 1⟩, #[Rgb.splat ⟨0x3f800000⟩, Rgb.splat ⟨0x40000000⟩]⟩

theorem decode_sideBySide : Binary.decode (Binary.stream sideBySide) = .ok sideBySide := rfl

/-- With edge three the second block holds the voxel `(5, 2, 0)`, and `(6, 0, 0)` is outside. -/
theorem majorantAtVoxel_paired_sideBySide :
    Binary.decode (Binary.stream sideBySide) = .ok sideBySide ∧
      sideBySide.extent.shape.Scalable (3 : UInt32).toInt32 ∧
      (mk 3 sideBySide).majorantAtVoxel ⟨5, 2, 0⟩ = .ok (Rgb.splat ⟨0x40000000⟩) ∧
      (mk 3 sideBySide).majorantAtVoxel ⟨6, 0, 0⟩ =
        refuse (.outOfBounds ⟨6, 0, 0⟩ ⟨6, 3, 3⟩) := by
  have scalable : sideBySide.extent.shape.Scalable (3 : UInt32).toInt32 := by
    unfold Point.Scalable Coordinate.Fits
    decide
  obtain ⟨answers, -⟩ := majorantAtVoxel_paired decode_sideBySide 3
  obtain ⟨shape, hshape, -, lookUp⟩ := answers scalable
  obtain rfl : shape = ⟨6, 3, 3⟩ := Except.ok.inj (hshape.symm.trans (by decide))
  obtain ⟨inside, -⟩ := lookUp ⟨5, 2, 0⟩
  obtain ⟨-, outside⟩ := lookUp ⟨6, 0, 0⟩
  obtain ⟨block, majorant, hx, hy, hz, -, stored, found⟩ := inside (by decide)
  have second : block = ⟨1, 0, 0⟩ := Point.ext (Coordinate.eq_of_toInt hx)
    (Coordinate.eq_of_toInt hy) (Coordinate.eq_of_toInt hz)
  subst second
  have value : sideBySide.get ⟨1, 0, 0⟩ = .ok (Rgb.splat ⟨0x40000000⟩) := by decide
  exact ⟨decode_sideBySide, scalable, found.trans (stored.symm.trans value), outside (by decide)⟩

/-- With any other size no voxel is answered for. -/
theorem majorantAtVoxel_of_not_scalable (h : ¬ m.extent.shape.Scalable s.toInt32)
    (origin : m.extent.minimum = Point.zero) (p : Point) :
    (mk s m).majorantAtVoxel p = .error (.fault .mulOverflow) := by
  have voxels : (mk s m).voxelExtent = .error .mulOverflow := by
    change (m.extent.minimum.scale s.toInt32 >>= fun least =>
      m.extent.shape.scale s.toInt32 >>= fun shape => pure (Extent.mk least shape)) = _
    rw [origin, Point.scale_zero, ok_bind, Point.scale_of_not_scalable h, error_bind]
  unfold majorantAtVoxel
  rw [voxels]
  rfl

/-- Two blocks as wide as half of all coordinates reach one voxel too far. Even the voxel at the
origin, whose block is the first, gets neither a majorant nor a refusal. -/
theorem majorantAtVoxel_too_wide :
    Binary.decode (Binary.stream sideBySide) = .ok sideBySide ∧
      sideBySide.get Point.zero = .ok (Rgb.splat ⟨0x3f800000⟩) ∧
      (mk 1073741824 sideBySide).majorantAtVoxel Point.zero = .error (.fault .mulOverflow) ∧
      (∀ majorant, (mk 1073741824 sideBySide).majorantAtVoxel Point.zero ≠ .ok majorant) ∧
      ∀ dimensions, (mk 1073741824 sideBySide).majorantAtVoxel Point.zero ≠
        refuse (.outOfBounds Point.zero dimensions) := by
  have wide : ¬ sideBySide.extent.shape.Scalable (1073741824 : UInt32).toInt32 := by
    unfold Point.Scalable Coordinate.Fits
    decide
  have stops := majorantAtVoxel_of_not_scalable wide rfl Point.zero
  rw [stops]
  exact ⟨decode_sideBySide, by decide, rfl, nofun, nofun⟩

end SupervoxelGrid

end DenseMedium
