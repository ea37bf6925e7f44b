import DenseMedium.Proofs.Binary.Headers
import Mathlib.Algebra.Group.Nat.Defs

/-!
Encoding and decoding undo each other.

* `encode_eq_ok`: the stream of a grid is its header and the encodings of its values.
* `decode_encode`: decoding gives the values back, bit for bit and in order, over the extent of the
  same shape at the origin. A grid with a length that is not positive has a stream that is refused.
* `encode_decode`: encoding gives an accepted stream back except for the fourth word of each vector,
  which becomes zero; accepted streams make one grid exactly when they agree outside those words.
-/

namespace DenseMedium

namespace Binary

variable {α : Type} [Record α] [Cell α] [Record.Lawful α] {b b' : Bytes} {g g' : Grid α}

/-! ### The stream of a grid -/

/-- The bytes of a grid. -/
def stream (g : Grid α) : Bytes := Header.front g.dimensions 0 ++ body g.values.toList

omit [Cell α] [Record.Lawful α] in
theorem flatten_pieces (g : Grid α) : (pieces g).flatten = stream g := by
  rw [pieces, List.flatten_append, Header.flatten_pieces, ← List.flatMap_id, List.flatMap_assoc]
  simp only [List.flatMap_id]
  rfl

theorem length_stream (g : Grid α) :
    (stream g).length = Header.size + Record.size α * g.values.size := by
  rw [stream, List.length_append, Header.length_front, length_body, Array.length_toList,
    Nat.mul_comm]

omit [Cell α] [Record.Lawful α] in
theorem encode_eq_ok (h : Header.size + Record.size α * g.values.size ≤ Size.maxBytes) :
    encode g = .ok (stream g) := by
  rw [Nat.mul_comm] at h
  have small : Size.maxBytes < Size.bound := by decide
  unfold encode
  rw [Size.mul_ok (by omega), ok_bind, Size.add_ok (by omega), ok_bind,
    Size.reserve_eq_ok.mpr (by omega), ok_bind, flatten_pieces, pure_eq_ok]

/-! ### Decoding a stream that was encoded -/

theorem decode_stream (h : Header.size + Record.size α * g.values.size ≤ Size.maxBytes)
    (hg : g.extent.Positive) (hcount : g.extent.pointCount = .ok g.values.size) :
    decode (stream g) = .ok ⟨Extent.ofShape g.extent.shape, g.values⟩ := by
  obtain ⟨hlt, hsize⟩ := hg.pointCount_eq_ok.mp hcount
  have cells := Extent.cellCount_dimensions hg
  rw [← length_stream] at h
  refine (decode_eq_ok h).mpr ⟨g.dimensions, g.values.toList, body g.values.toList, ?_,
    Extent.dimensions_valid.mpr ⟨hg, cells ▸ hlt⟩, ?_, rfl, clearPadding_body _⟩
  · rw [Array.toArray_toList, Grid.dimensions, Extent.extent_dimensions]
  · rw [Array.length_toList, hsize, Grid.dimensions, cells]

omit [Record.Lawful α] in
/-- The header of a grid with a length that is not positive is refused. -/
theorem decode_stream_of_not_positive (hg : ¬ g.extent.Positive) :
    ∃ cause, decode (α := α) (stream g) = refuse (.headerInvalid cause) := by
  have invalid : ¬ g.dimensions.Valid := fun h => hg (Extent.dimensions_valid.mp h).1
  exact ⟨_, decode_of_error (Header.readStream_of_not_valid
    (Header.words?_eq_some.mpr ⟨_, rfl⟩) invalid)⟩

/-- Decoding the stream of a grid gives its values, bit for bit, over its shape at the origin, and
the grid itself if it lies there. The stream of a grid without points is refused. -/
theorem decode_encode (h : 16 + Record.size α * g.values.size ≤ 2 ^ 63 - 1) :
    ∃ b, encode g = .ok b ∧
      (g.extent.Positive → g.extent.pointCount = .ok g.values.size →
        decode b = .ok ⟨Extent.ofShape g.extent.shape, g.values⟩ ∧
          (g.extent.minimum = Point.zero → decode b = .ok g)) ∧
      (¬ g.extent.Positive → ∃ cause, decode (α := α) b = refuse (.headerInvalid cause)) := by
  refine ⟨stream g, encode_eq_ok h, ?_, decode_stream_of_not_positive⟩
  intro hg hcount
  have whole := decode_stream h hg hcount
  refine ⟨whole, ?_⟩
  intro origin
  have same : Extent.ofShape g.extent.shape = g.extent := by rw [Extent.ofShape, ← origin]
  rw [whole, same]

/-- A row of two majorants away from the origin, one of them not a number, and a grid of no voxels
with a negative length. -/
theorem decode_encode_off_origin :
    (∃ b, encode (⟨⟨⟨-1, 2, 3⟩, ⟨2, 1, 1⟩⟩, #[⟨.nan, ⟨1⟩, .negativeInfinity⟩, Rgb.zero]⟩ :
        Grid Rgb) = .ok b ∧
      decode b = .ok (⟨⟨⟨0, 0, 0⟩, ⟨2, 1, 1⟩⟩, #[⟨.nan, ⟨1⟩, .negativeInfinity⟩, Rgb.zero]⟩ :
        Grid Rgb)) ∧
      ∃ b cause, encode (⟨⟨⟨0, 0, 0⟩, ⟨-1, 1, 1⟩⟩, #[]⟩ : Grid Voxel) = .ok b ∧
        decode (α := Voxel) b = refuse (.headerInvalid cause) := by
  constructor
  · obtain ⟨b, hb, hdecode, -⟩ := decode_encode (g := (⟨⟨⟨-1, 2, 3⟩, ⟨2, 1, 1⟩⟩,
      #[⟨.nan, ⟨1⟩, .negativeInfinity⟩, Rgb.zero]⟩ : Grid Rgb)) (by decide)
    exact ⟨b, hb, (hdecode ⟨by decide, by decide, by decide⟩ (by rfl)).1⟩
  · obtain ⟨b, hb, -, hrefused⟩ := decode_encode
      (g := (⟨⟨⟨0, 0, 0⟩, ⟨-1, 1, 1⟩⟩, #[]⟩ : Grid Voxel)) (by decide)
    obtain ⟨cause, hcause⟩ := hrefused (fun h => absurd h.1 (by decide))
    exact ⟨b, cause, hb, hcause⟩

/-! ### Encoding a grid that was decoded -/

/-- A stream with zeros for the fourth word of each vector behind the header. -/
def clearBody (b : Bytes) : Bytes :=
  b.mapIdx fun i c => if Header.size ≤ i ∧ IsPadding i then 0 else c

/-- Whether two streams differ at most in the fourth words of the vectors behind the header. -/
def AgreeOutsidePadding (b b' : Bytes) : Prop :=
  b.length = b'.length ∧ ∀ i, ¬ (Header.size ≤ i ∧ IsPadding i) → b[i]? = b'[i]?

theorem clearBody_front (d : Dimensions) (reserved : UInt32) (records : Bytes) :
    clearBody (Header.front d reserved ++ records) =
      Header.front d reserved ++ clearPadding records := by
  have shift (i : Nat) : (Header.size ≤ i + (Header.front d reserved).length ∧
      IsPadding (i + (Header.front d reserved).length)) ↔ IsPadding i := by
    unfold IsPadding Rgb.vectorSize
    rw [Header.length_front, Header.size]
    omega
  unfold clearBody
  rw [List.mapIdx_append]
  simp only [shift]
  -- No byte of the header is padding.
  refine congrArg (· ++ clearPadding records) (List.ext_getElem List.length_mapIdx ?_)
  intro i _ h
  rw [Header.length_front] at h
  rw [List.getElem_mapIdx, if_neg (by omega)]

/-- Clearing forgets the padding and nothing else. -/
theorem clearBody_eq_iff : clearBody b = clearBody b' ↔ AgreeOutsidePadding b b' := by
  have at_index (b : Bytes) (i : Nat) : (clearBody b)[i]? =
      (b[i]?).map fun c => if Header.size ≤ i ∧ IsPadding i then 0 else c := List.getElem?_mapIdx
  constructor
  · intro h
    have len := congrArg List.length h
    unfold clearBody at len
    rw [List.length_mapIdx, List.length_mapIdx] at len
    refine ⟨len, fun i hi => ?_⟩
    have := congrArg (·[i]?) h
    simpa only [at_index, if_neg hi, Option.map_id'] using this
  · rintro ⟨len, same⟩
    refine List.ext_getElem? fun i => ?_
    rw [at_index, at_index]
    by_cases hi : Header.size ≤ i ∧ IsPadding i
    · -- A padding byte is there in both or in neither.
      by_cases inside : i < b.length
      · rw [List.getElem?_eq_getElem inside, List.getElem?_eq_getElem (len ▸ inside)]
        simp only [Option.map_some, if_pos hi]
      · rw [List.getElem?_eq_none (by omega), List.getElem?_eq_none (by omega)]
    · rw [same i hi]

/-- An accepted stream with its padding cleared is the stream of its grid. -/
theorem stream_of_decode (hb : b.length ≤ Size.maxBytes) (h : decode b = .ok g) :
    stream g = clearBody b := by
  obtain ⟨d, vs, records, rfl, hd, count, rfl, hrecords⟩ := (decode_eq_ok hb).mp h
  rw [clearBody_front, hrecords, stream, Grid.dimensions, Extent.dimensions_extent,
    List.toList_toArray]

/-- Streams with one header and one cleared body make one grid. -/
theorem grid_eq_of_stream_eq (hb : b.length ≤ Size.maxBytes) (hb' : b'.length ≤ Size.maxBytes)
    (h : decode b = .ok g) (h' : decode b' = .ok g') (hs : stream g = stream g') : g = g' := by
  obtain ⟨d, vs, -, rfl, -⟩ := (decode_eq_ok hb).mp h
  obtain ⟨d', vs', -, rfl, -⟩ := (decode_eq_ok hb').mp h'
  unfold stream Grid.dimensions at hs
  rw [Extent.dimensions_extent, Extent.dimensions_extent] at hs
  obtain ⟨fronts, bodies⟩ := List.append_inj hs rfl
  have words : some (d, (0 : UInt32)) = some (d', 0) := by
    rw [← Header.words?_eq_some.mpr ⟨[], (List.append_nil _).symm⟩, fronts]
    exact Header.words?_eq_some.mpr ⟨[], (List.append_nil _).symm⟩
  obtain ⟨rfl, -⟩ := Prod.mk.inj (Option.some.inj words)
  have values : vs = vs' := body_injective bodies
  rw [values]

/-- Encoding the grid of an accepted stream gives the stream back with its padding cleared, and the
accepted streams of one grid are those that agree outside the padding. -/
theorem encode_decode (hb : b.length < 2 ^ 63) (h : decode b = .ok g) :
    encode g = .ok (clearBody b) ∧
      ∀ (b' : Bytes) (g' : Grid α), b'.length < 2 ^ 63 → decode b' = .ok g' →
        (g = g' ↔ AgreeOutsidePadding b b') := by
  have room : b.length ≤ Size.maxBytes := by unfold Size.maxBytes; omega
  have cleared := stream_of_decode room h
  refine ⟨?_, ?_⟩
  · rw [← cleared]
    apply encode_eq_ok
    rw [← length_stream, cleared, clearBody, List.length_mapIdx]
    exact room
  · intro b' g' hb' h'
    have room' : b'.length ≤ Size.maxBytes := by unfold Size.maxBytes; omega
    rw [← clearBody_eq_iff, ← cleared, ← stream_of_decode room' h']
    constructor
    · rintro rfl
      rfl
    · exact grid_eq_of_stream_eq room room' h h'

/-- One voxel with padding that is not zero: the padding is all that encoding changes. -/
theorem encode_decode_padded : (padded ⟨1, 1, 1⟩ 3).length < 2 ^ 63 ∧
    ∃ g : Grid Voxel, decode (padded ⟨1, 1, 1⟩ 3) = .ok g ∧
      encode g = .ok (clearBody (padded ⟨1, 1, 1⟩ 3)) ∧
      clearBody (padded ⟨1, 1, 1⟩ 3) ≠ padded ⟨1, 1, 1⟩ 3 ∧
      decode (clearBody (padded ⟨1, 1, 1⟩ 3)) = .ok g := by
  have room : (padded ⟨1, 1, 1⟩ 3).length < 2 ^ 63 := by decide
  have found : decode (α := Voxel) (padded ⟨1, 1, 1⟩ 3) = .ok _ := rfl
  obtain ⟨hencode, hsame⟩ := encode_decode room found
  have cleared : decode (α := Voxel) (clearBody (padded ⟨1, 1, 1⟩ 3)) = .ok _ := rfl
  have same := (hsame _ _ (by decide) cleared).mpr (clearBody_eq_iff.mp (by decide))
  exact ⟨room, _, found, hencode, by decide, same ▸ cleared⟩

end Binary

end DenseMedium
