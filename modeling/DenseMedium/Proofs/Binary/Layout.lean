import DenseMedium.Proofs.Binary.RoundTrip
import DenseMedium.Proofs.Grid.Access

/-!
The bytes of a stream, offset by offset.

A program that maps a stream into memory does not decode it. It computes the place of a coefficient
from the local components of a point, the vector and the channel, and it relies on `LaidOut`:

* `slice_flatMap`: encodings of one length stand one after the other, so the place of each is a
  multiple of that length. It is used for the records of a body and for the vectors of a record.
* `slice_stream`: the record at the stride of a point is the encoding of the value there.
* `encode_laid_out`: the streams of voxel grids and of majorants have that layout.
-/

namespace DenseMedium

/-- A number of bytes from an offset on. -/
def slice (b : Bytes) (first count : Nat) : Bytes := (b.drop first).take count

section Slices

variable {b front rest : Bytes} {i j m n : Nat}

theorem slice_append : slice (front ++ rest) (front.length + i) n = slice rest i n := by
  unfold slice
  rw [List.drop_length_add_append]

/-- A slice of a slice is a slice at the sum of the offsets. -/
theorem slice_slice (h : j + m ≤ n) : slice (slice b i n) j m = slice b (i + j) m := by
  unfold slice
  rw [List.drop_take, List.take_take, List.drop_drop, Nat.min_eq_left (Nat.le_sub_of_add_le' h)]

/-- Encodings of `n` bytes: number `i` of them stands at `n * i`. -/
theorem slice_flatMap {β : Type} {f : β → Bytes} (hf : ∀ x, (f x).length = n) :
    ∀ {xs : List β} {i : Nat} {x : β}, xs[i]? = some x → slice (xs.flatMap f) (n * i) n = f x := by
  intro xs
  induction xs with
  | nil =>
    intro i x h
    cases h
  | cons y ys ih =>
    intro i x h
    rw [List.flatMap_cons]
    cases i with
    | zero =>
      cases h
      exact List.take_left' (hf y)
    | succ i =>
      rw [Nat.mul_succ, Nat.add_comm, ← hf y, slice_append, hf y]
      exact ih h

end Slices

/-! ### Records of vectors -/

/-- Whether the records of a type are made of these vectors, in order. -/
structure Record.Consists (α : Type) [Record α] (vectors : List (α → Rgb)) : Prop where
  size_eq : Record.size α = 16 * vectors.length
  encode_eq (v : α) : Record.encode v = vectors.flatMap fun vector => Record.encode (vector v)

/-- The record of a voxel: absorption, scattering, emission. -/
theorem Voxel.consists :
    Record.Consists Voxel [Voxel.sigmaA, Voxel.sigmaS, Voxel.emission] where
  size_eq := rfl
  encode_eq _ := rfl

theorem Rgb.consists : Record.Consists Rgb [id] where
  size_eq := rfl
  encode_eq _ := rfl

/-- Whether a vector stands at an offset: its channels, and a zero word behind them. -/
def VectorAt (b : Bytes) (first : Nat) (c : Rgb) : Prop :=
  (∀ i < 3, ∃ s, c.channel i = .ok s ∧
    slice b (first + 4 * i) 4 = LittleEndian.encode s.bits) ∧
    slice b (first + 12) 4 = [0, 0, 0, 0]

theorem vectorAt_of_slice {b : Bytes} {first : Nat} {c : Rgb}
    (h : slice b first 16 = Record.encode c) : VectorAt b first c := by
  have word {i : Nat} (hi : i + 4 ≤ 16) :
      slice b (first + i) 4 = slice (Record.encode c) i 4 := by
    rw [← h, slice_slice hi]
  refine ⟨fun i hi => ?_, word (by omega)⟩
  rw [word (by omega)]
  match i, hi with
  | 0, _ => exact ⟨c.r, rfl, rfl⟩
  | 1, _ => exact ⟨c.g, rfl, rfl⟩
  | 2, _ => exact ⟨c.b, rfl, rfl⟩

theorem Record.Consists.slice_encode {α : Type} [Record α] {vectors : List (α → Rgb)}
    (h : Consists α vectors) (v : α) {k : Nat} {vector : α → Rgb}
    (hk : vectors[k]? = some vector) :
    slice (Record.encode v) (16 * k) 16 = Record.encode (vector v) := by
  rw [h.encode_eq]
  have length (vector : α → Rgb) : (Record.encode (vector v)).length = 16 := rfl
  exact slice_flatMap length hk

namespace Binary

/-! ### Streams -/

/-- The layout of the stream of a grid. A header holds the three lengths and a zero word. The record
of a point stands at its stride, and in it the vectors in order. -/
structure LaidOut {α : Type} (vectors : List (α → Rgb)) (g : Grid α) (b : Bytes) : Prop where
  length_eq : b.length = 16 + 16 * vectors.length * g.extent.volume
  header : slice b 0 16 = [g.extent.width, g.extent.height, g.extent.depth, 0].flatMap fun n =>
    LittleEndian.encode (UInt32.ofNat n)
  vector : ∀ x < g.extent.width, ∀ y < g.extent.height, ∀ z < g.extent.depth, ∃ p v,
    (p.x.toInt = g.extent.minimum.x.toInt + x ∧ p.y.toInt = g.extent.minimum.y.toInt + y ∧
      p.z.toInt = g.extent.minimum.z.toInt + z) ∧ g.get p = .ok v ∧
    ∀ k vector, vectors[k]? = some vector →
      VectorAt b (16 + 16 * vectors.length *
        (x + g.extent.width * (y + g.extent.height * z)) + 16 * k) (vector v)

section Streams

variable {α : Type} [Record α] [Cell α] [Record.Lawful α] {g : Grid α} {v : α}

/-- The record number `i` of a stream. -/
theorem slice_stream {i : Nat} (h : g.values[i]? = some v) :
    slice (stream g) (16 + Record.size α * i) (Record.size α) = Record.encode v := by
  have value : g.values.toList[i]? = some v := by rwa [Array.getElem?_toList]
  unfold stream body
  rw [show 16 = (Header.front g.dimensions 0).length from rfl, slice_append]
  exact slice_flatMap Record.Lawful.length_encode value

omit [Cell α] [Record.Lawful α] in
/-- The lengths of a positive extent, as the header has them. -/
theorem slice_header (positive : g.extent.Positive) :
    slice (stream g) 0 16 = [g.extent.width, g.extent.height, g.extent.depth, 0].flatMap fun n =>
      LittleEndian.encode (UInt32.ofNat n) := by
  obtain ⟨hx, hy, hz⟩ := positive
  have word {c : Coordinate} (hc : 0 < c.toInt) : UInt32.ofNat c.toInt.toNat = c.toUInt32 := by
    rw [← Coordinate.toNat_toUInt32 (Int.le_of_lt hc), UInt32.ofNat_toNat]
  have front : slice (stream g) 0 16 = Header.front g.dimensions 0 :=
    List.take_left' (Header.length_front g.dimensions 0)
  rw [front]
  simp only [List.flatMap_cons, List.flatMap_nil, Extent.width, Extent.height, Extent.depth, word hx,
    word hy, word hz]
  rfl

theorem laidOut_stream {vectors : List (α → Rgb)} (records : Record.Consists α vectors)
    (hg : g.Complete) : LaidOut vectors g (stream g) where
  length_eq := by
    rw [length_stream, hg.size_eq, records.size_eq]
    rfl
  header := slice_header hg.positive
  vector := by
    intro x hx y hy z hz
    obtain ⟨b, hb⟩ := hg.bounded
    have hp := Extent.pointOf_mem hb hx hy hz
    have hr := hg.full.rank_lt_size hp
    refine ⟨g.extent.pointOf x y z, g.values[g.extent.rank (g.extent.pointOf x y z)],
      Extent.toInt_pointOf hb hx hy hz,
      hg.full.get_eq_ok.mpr ⟨hp, Array.getElem?_eq_getElem hr⟩, ?_⟩
    have record := slice_stream (Array.getElem?_eq_getElem hr)
    generalize g.values[g.extent.rank (g.extent.pointOf x y z)] = v at record
    rw [Extent.rank_pointOf hb hx hy hz, records.size_eq] at record
    intro k vector hk
    obtain ⟨hlt, -⟩ := List.getElem?_eq_some_iff.mp hk
    have bytes := records.slice_encode v hk
    rw [← record, slice_slice (by omega)] at bytes
    exact vectorAt_of_slice bytes

/-- A grid whose stream is a size is encoded, in the layout of its records. -/
theorem exists_encode {vectors : List (α → Rgb)} (records : Record.Consists α vectors)
    (positive : g.extent.Positive) (bounded : ∃ b, g.extent.leastUpperBound = .ok b)
    (full : g.values.size = g.extent.volume)
    (room : 16 + 16 * vectors.length * g.extent.volume ≤ 2 ^ 63 - 1) :
    ∃ b, encode g = .ok b ∧ LaidOut vectors g b := by
  rw [← records.size_eq, ← full] at room
  have few := Nat.le_mul_of_pos_left g.values.size (Record.Lawful.size_pos (α := α))
  have small : g.values.size < Size.bound := by
    unfold Size.bound
    omega
  exact ⟨_, encode_eq_ok room, laidOut_stream records ⟨positive, bounded, full, small⟩⟩

end Streams

/-- The streams of voxel grids and of majorants have the layout of three vectors and of one vector
for each point: record `x + w * (y + h * z)` belongs to the local point `(x, y, z)`. -/
theorem encode_laid_out :
    (∀ g : VoxelGrid, g.extent.Positive → (∃ b, g.extent.leastUpperBound = .ok b) →
      g.values.size = g.extent.volume → 16 + 48 * g.extent.volume ≤ 2 ^ 63 - 1 →
      ∃ b, encode g = .ok b ∧ LaidOut [Voxel.sigmaA, Voxel.sigmaS, Voxel.emission] g b) ∧
    (∀ sv : SupervoxelGrid, sv.majorants.extent.Positive →
      (∃ b, sv.majorants.extent.leastUpperBound = .ok b) →
      sv.majorants.values.size = sv.majorants.extent.volume →
      16 + 16 * sv.majorants.extent.volume ≤ 2 ^ 63 - 1 →
      ∃ b, encodeMajorants sv = .ok b ∧ LaidOut [id] sv.majorants b) :=
  ⟨fun _ => exists_encode Voxel.consists, fun _ => exists_encode Rgb.consists⟩

/-- Two voxels beside each other, away from the origin, and a column of two majorants. The second
voxel has its emission, a NaN with a payload in red and a negative zero in green, at the offset
`16 + 48 + 32`. -/
theorem encode_laid_out_off_origin :
    let strange : Rgb := ⟨⟨0x7fc00001⟩, ⟨0x80000000⟩, .negativeInfinity⟩
    let g : VoxelGrid := ⟨⟨⟨-3, 7, 0⟩, ⟨2, 1, 1⟩⟩, #[.empty, ⟨.zero, .zero, strange⟩]⟩
    let sv : SupervoxelGrid := ⟨4, ⟨⟨⟨0, 0, -1⟩, ⟨1, 1, 2⟩⟩, #[.zero, strange]⟩⟩
    (g.extent.Positive ∧ (∃ b, g.extent.leastUpperBound = .ok b) ∧
      g.values.size = g.extent.volume ∧ 16 + 48 * g.extent.volume ≤ 2 ^ 63 - 1) ∧
      (∃ b, encode g = .ok b ∧ b.length = 112 ∧ VectorAt b (16 + 48 * 1 + 32) strange) ∧
      (sv.majorants.extent.Positive ∧ (∃ b, sv.majorants.extent.leastUpperBound = .ok b) ∧
        sv.majorants.values.size = sv.majorants.extent.volume ∧
        16 + 16 * sv.majorants.extent.volume ≤ 2 ^ 63 - 1) ∧
      ∃ b, encodeMajorants sv = .ok b ∧ b.length = 48 ∧ VectorAt b (16 + 16 * 1) strange := by
  intro strange g sv
  have positive : g.extent.Positive := ⟨by decide, by decide, by decide⟩
  have bounded : ∃ b, g.extent.leastUpperBound = .ok b := ⟨⟨-1, 8, 1⟩, by decide⟩
  have positive' : sv.majorants.extent.Positive := ⟨by decide, by decide, by decide⟩
  have bounded' : ∃ b, sv.majorants.extent.leastUpperBound = .ok b := ⟨⟨1, 1, 1⟩, by decide⟩
  refine ⟨⟨positive, bounded, rfl, by decide⟩, ?_, ⟨positive', bounded', rfl, by decide⟩, ?_⟩
  · obtain ⟨b, hb, laidOut⟩ := encode_laid_out.1 g positive bounded rfl (by decide)
    obtain ⟨p, v, ⟨x, y, z⟩, get, vectors⟩ :=
      laidOut.vector 1 (by decide) 0 (by decide) 0 (by decide)
    have place : p = ⟨-2, 7, 0⟩ := Point.ext (Coordinate.eq_of_toInt x) (Coordinate.eq_of_toInt y)
      (Coordinate.eq_of_toInt z)
    have value : g.get ⟨-2, 7, 0⟩ = .ok ⟨.zero, .zero, strange⟩ := by decide +kernel
    rw [place, value] at get
    cases get
    exact ⟨b, hb, laidOut.length_eq, vectors 2 _ rfl⟩
  · obtain ⟨b, hb, laidOut⟩ := encode_laid_out.2 sv positive' bounded' rfl (by decide)
    obtain ⟨p, v, ⟨x, y, z⟩, get, vectors⟩ :=
      laidOut.vector 0 (by decide) 0 (by decide) 1 (by decide)
    have place : p = ⟨0, 0, 0⟩ := Point.ext (Coordinate.eq_of_toInt x) (Coordinate.eq_of_toInt y)
      (Coordinate.eq_of_toInt z)
    have value : sv.majorants.get ⟨0, 0, 0⟩ = .ok strange := by decide +kernel
    rw [place, value] at get
    cases get
    exact ⟨b, hb, laidOut.length_eq, vectors 0 _ rfl⟩

end Binary

end DenseMedium
