import DenseMedium.Proofs.Binary.Headers
import Mathlib.Algebra.Group.Nat.Defs

/-!
Every byte string is a grid stream or is refused for one definite reason.

The conditions are stated on the bytes alone: four little-endian words at the front and the length.
`Classified` lists what decoding answers in each case, in the order in which the cases are told
apart, and `classified` shows that this holds of every byte string that memory can hold. It follows
that no byte string is a voxel grid and a majorant grid at once, and that cutting a stream or
appending to it is always noticed.
-/

namespace DenseMedium

namespace Binary

/-! ### The conditions -/

/-- The word at an offset, the least significant byte first. -/
def wordAt (b : Bytes) (i : Nat) : Nat :=
  (b.getD i 0).toNat + 256 * (b.getD (i + 1) 0).toNat + 65536 * (b.getD (i + 2) 0).toNat +
    16777216 * (b.getD (i + 3) 0).toNat

/-- The number of cells that the front of a stream declares. -/
def cells (b : Bytes) : Nat := wordAt b 0 * wordAt b 4 * wordAt b 8

/-- The number of bytes of the stream that the front declares. -/
def wholeLength (recordSize : Nat) (b : Bytes) : Nat := 16 + recordSize * cells b

/-- Whether the four words at the front are a header: positive dimensions below `2 ^ 31`, a zero
word, and as many cells and bytes as a size can count. -/
structure SoundFront (recordSize : Nat) (b : Bytes) : Prop where
  reserved : wordAt b 12 = 0
  width : 1 ≤ wordAt b 0 ∧ wordAt b 0 ≤ 2 ^ 31 - 1
  height : 1 ≤ wordAt b 4 ∧ wordAt b 4 ≤ 2 ^ 31 - 1
  depth : 1 ≤ wordAt b 8 ∧ wordAt b 8 ≤ 2 ^ 31 - 1
  cells_lt : cells b < 2 ^ 64
  wholeLength_lt : wholeLength recordSize b < 2 ^ 64

/-- What decoding `b` with records of the given size answers. -/
structure Classified (α : Type) [Record α] [Cell α] (recordSize : Nat) (b : Bytes) : Prop where
  noFault (f : Fault) : decode (α := α) b ≠ .error (.fault f)
  shortFront : b.length < 16 → decode (α := α) b = refuse (.truncatedStream 16 b.length)
  unsoundFront : 16 ≤ b.length → ¬ SoundFront recordSize b →
    ∃ cause, decode (α := α) b = refuse (.headerInvalid cause)
  shortBody : 16 ≤ b.length → SoundFront recordSize b → b.length < wholeLength recordSize b →
    decode (α := α) b = refuse (.truncatedStream (wholeLength recordSize b) b.length)
  longBody : 16 ≤ b.length → SoundFront recordSize b → wholeLength recordSize b < b.length →
    decode (α := α) b =
      refuse (.dimensionMismatch "binary stream length" (wholeLength recordSize b) b.length)
  whole : 16 ≤ b.length → SoundFront recordSize b → b.length = wholeLength recordSize b →
    ∃ g : Grid α, decode b = .ok g ∧ g.extent.minimum = Point.zero ∧
      g.extent.shape.x.toInt = wordAt b 0 ∧ g.extent.shape.y.toInt = wordAt b 4 ∧
      g.extent.shape.z.toInt = wordAt b 8 ∧ g.values.size = cells b
  prefix_truncated {g : Grid α} : decode b = .ok g → ∀ n < b.length,
    ∃ expected, decode (α := α) (b.take n) = refuse (.truncatedStream expected n)
  extension_mismatched {g : Grid α} : decode b = .ok g → ∀ t ≠ [],
    decode (α := α) (b ++ t) =
      refuse (.dimensionMismatch "binary stream length" b.length (b.length + t.length))

/-! ### The words at the front -/

section Front

variable {b rest : Bytes} {d : Dimensions} {reserved : UInt32} {recordSize : Nat}

theorem toNat_encode (w : UInt32) : (UInt8.ofNat w.toNat).toNat +
    256 * (UInt8.ofNat (w.toNat / 256)).toNat + 65536 * (UInt8.ofNat (w.toNat / 65536)).toNat +
      16777216 * (UInt8.ofNat (w.toNat / 16777216)).toNat = w.toNat := by
  have := w.toNat_lt
  simp only [UInt8.toNat_ofNat']
  omega

theorem wordAt_front (h : b = Header.front d reserved ++ rest) :
    wordAt b 0 = d.width.toNat ∧ wordAt b 4 = d.height.toNat ∧ wordAt b 8 = d.depth.toNat ∧
      wordAt b 12 = reserved.toNat := by
  subst h
  exact ⟨toNat_encode _, toNat_encode _, toNat_encode _, toNat_encode _⟩

theorem cells_front (h : b = Header.front d reserved ++ rest) : cells b = d.cellCount := by
  obtain ⟨hw, hh, hd, -⟩ := wordAt_front h
  rw [cells, hw, hh, hd, Dimensions.cellCount]

theorem wholeLength_front (h : b = Header.front d reserved ++ rest) :
    wholeLength recordSize b = Header.declaredLength d recordSize := by
  rw [wholeLength, cells_front h, Header.declaredLength, Header.size]

/-- The conditions on the bytes are those on the words that are read. -/
theorem soundFront_iff (h : b = Header.front d reserved ++ rest) :
    SoundFront recordSize b ↔
      reserved = 0 ∧ d.Valid ∧ Header.declaredLength d recordSize < Size.bound := by
  obtain ⟨hw, hh, hd, hr⟩ := wordAt_front h
  have zero : reserved = 0 ↔ reserved.toNat = 0 := by
    rw [← UInt32.toNat_inj]
    rfl
  rw [zero, ← wholeLength_front h, ← hr]
  unfold Dimensions.Valid Dimensions.IsLength
  rw [← cells_front h, ← hw, ← hh, ← hd]
  constructor
  · rintro ⟨h0, ⟨_, _⟩, ⟨_, _⟩, ⟨_, _⟩, hcells, hwhole⟩
    exact ⟨h0, ⟨⟨by omega, by omega⟩, ⟨by omega, by omega⟩, ⟨by omega, by omega⟩, hcells⟩, hwhole⟩
  · rintro ⟨h0, ⟨⟨_, _⟩, ⟨_, _⟩, ⟨_, _⟩, hcells⟩, hwhole⟩
    exact ⟨h0, ⟨by omega, by omega⟩, ⟨by omega, by omega⟩, ⟨by omega, by omega⟩, hcells, hwhole⟩

/-- The dimensions and the records of a stream whose front is sound. -/
theorem front_of_sound (h : 16 ≤ b.length) (hs : SoundFront recordSize b) :
    ∃ d records, b = Header.front d 0 ++ records ∧ d.Valid ∧
      Header.declaredLength d recordSize < Size.bound ∧
      Header.declaredLength d recordSize = wholeLength recordSize b := by
  obtain ⟨d, reserved, hw⟩ := Header.exists_words h
  obtain ⟨records, hfront⟩ := Header.words?_eq_some.mp hw
  obtain ⟨rfl, hd, hlt⟩ := (soundFront_iff hfront).mp hs
  exact ⟨d, records, hfront, hd, hlt, (wholeLength_front hfront).symm⟩

end Front

/-! ### Case by case -/

section Cases

variable {α : Type} [Record α] [Cell α] {b records : Bytes} {d : Dimensions} {g : Grid α}

theorem decode_of_short (h : b.length < 16) :
    decode (α := α) b = refuse (.truncatedStream 16 b.length) :=
  decode_of_error (Header.readStream_of_short h)

/-- A stream that is shorter than its sound front declares. -/
theorem decode_of_truncated (hfront : b = Header.front d 0 ++ records) (hd : d.Valid)
    (hlt : Header.declaredLength d (Record.size α) < Size.bound)
    (h : b.length < Header.declaredLength d (Record.size α)) :
    decode (α := α) b =
      refuse (.truncatedStream (Header.declaredLength d (Record.size α)) b.length) := by
  apply decode_of_error
  rw [Header.readStream_of_sound (Header.words?_eq_some.mpr ⟨records, hfront⟩) hd hlt, if_pos h]
  rfl

/-- A stream that is longer than its sound front declares. -/
theorem decode_of_trailing (hfront : b = Header.front d 0 ++ records) (hd : d.Valid)
    (hlt : Header.declaredLength d (Record.size α) < Size.bound)
    (h : Header.declaredLength d (Record.size α) < b.length) :
    decode (α := α) b = refuse (.dimensionMismatch "binary stream length"
      (Header.declaredLength d (Record.size α)) b.length) := by
  apply decode_of_error
  rw [Header.readStream_of_sound (Header.words?_eq_some.mpr ⟨records, hfront⟩) hd hlt,
    if_neg (Nat.lt_asymm h), if_pos h]
  rfl

theorem decode_of_shortBody (h : 16 ≤ b.length) (hs : SoundFront (Record.size α) b)
    (short : b.length < wholeLength (Record.size α) b) : decode (α := α) b =
      refuse (.truncatedStream (wholeLength (Record.size α) b) b.length) := by
  obtain ⟨d, records, hfront, hd, hlt, heq⟩ := front_of_sound h hs
  rw [← heq] at short ⊢
  exact decode_of_truncated hfront hd hlt short

theorem decode_of_longBody (h : 16 ≤ b.length) (hs : SoundFront (Record.size α) b)
    (long : wholeLength (Record.size α) b < b.length) : decode (α := α) b = refuse
      (.dimensionMismatch "binary stream length" (wholeLength (Record.size α) b) b.length) := by
  obtain ⟨d, records, hfront, hd, hlt, heq⟩ := front_of_sound h hs
  rw [← heq] at long ⊢
  exact decode_of_trailing hfront hd hlt long

/-- A stream of exactly the declared length is the grid of its records. -/
theorem decode_of_whole [Record.Lawful α] (hb : b.length ≤ Size.maxBytes) (h : 16 ≤ b.length)
    (hs : SoundFront (Record.size α) b) (hlength : b.length = wholeLength (Record.size α) b) :
    ∃ g : Grid α, decode b = .ok g ∧ g.extent.minimum = Point.zero ∧
      g.extent.shape.x.toInt = wordAt b 0 ∧ g.extent.shape.y.toInt = wordAt b 4 ∧
      g.extent.shape.z.toInt = wordAt b 8 ∧ g.values.size = cells b := by
  obtain ⟨d, records, hfront, hd, hlt, heq⟩ := front_of_sound h hs
  obtain ⟨vs, hvs, hdecode⟩ := decode_of_readStream hb (α := α)
    (Header.readStream_eq_ok.mpr ⟨d, rfl, hd, ⟨records, hfront⟩, hlength.trans heq.symm, hlt⟩)
  obtain ⟨hw, hh, hdepth, -⟩ := wordAt_front hfront
  obtain ⟨hx, hy, hz⟩ := hd.shape_toInt
  refine ⟨_, hdecode, rfl, hx.trans (by rw [hw]), hy.trans (by rw [hh]),
    hz.trans (by rw [hdepth]), ?_⟩
  rw [List.size_toArray, (readRecords_eq_some.mp hvs).1, cells_front hfront]

/-- A front that is not sound is refused for one of three reasons. -/
theorem decode_of_unsound (h : 16 ≤ b.length) (hs : ¬ SoundFront (Record.size α) b) :
    ∃ cause, decode (α := α) b = refuse (.headerInvalid cause) := by
  obtain ⟨d, reserved, hw⟩ := Header.exists_words h
  obtain ⟨rest, hfront⟩ := Header.words?_eq_some.mp hw
  rw [soundFront_iff hfront] at hs
  by_cases hr : reserved = 0
  · subst hr
    by_cases hd : d.Valid
    · have ho : ¬ Header.declaredLength d (Record.size α) < Size.bound := fun ho => hs ⟨rfl, hd, ho⟩
      exact ⟨_, decode_of_error (Header.readStream_of_overflow hw hd ho)⟩
    · exact ⟨_, decode_of_error (Header.readStream_of_not_valid hw hd)⟩
  · exact ⟨_, decode_of_error (Header.readStream_of_reserved hw hr)⟩

/-- Decoding answers: no byte string that memory can hold makes it fault. -/
theorem decode_ne_fault [Record.Lawful α] (hb : b.length ≤ Size.maxBytes) (f : Fault) :
    decode (α := α) b ≠ .error (.fault f) := by
  intro hf
  rcases Nat.lt_or_ge b.length 16 with short | long
  · rw [decode_of_short short] at hf
    cases hf
  by_cases hs : SoundFront (Record.size α) b
  · rcases Nat.lt_trichotomy b.length (wholeLength (Record.size α) b) with h | h | h
    · rw [decode_of_shortBody long hs h] at hf
      cases hf
    · obtain ⟨g, hg, -⟩ := decode_of_whole (α := α) hb long hs h
      rw [hg] at hf
      cases hf
    · rw [decode_of_longBody long hs h] at hf
      cases hf
  · obtain ⟨cause, hcause⟩ := decode_of_unsound (α := α) long hs
    rw [hcause] at hf
    cases hf

/-- An accepted stream has a sound front and the length that it declares. -/
theorem front_of_decode (h : decode b = .ok g) : ∃ d records, b = Header.front d 0 ++ records ∧
    d.Valid ∧ b.length = Header.declaredLength d (Record.size α) ∧
      Header.declaredLength d (Record.size α) < Size.bound := by
  cases hs : Header.readStream b (Record.size α) with
  | error x =>
    rw [decode_of_error hs] at h
    cases h
  | ok found =>
    obtain ⟨d, -, hd, ⟨records, hfront⟩, hlength, hlt⟩ := Header.readStream_eq_ok.mp hs
    exact ⟨d, records, hfront, hd, hlength, hlt⟩

theorem decode_take (h : decode b = .ok g) {n : Nat} (hn : n < b.length) :
    ∃ expected, decode (α := α) (b.take n) = refuse (.truncatedStream expected n) := by
  have len : (b.take n).length = n := by
    rw [List.length_take]
    omega
  by_cases short : n < 16
  · have := decode_of_short (α := α) (b := b.take n) (by rwa [len])
    rw [len] at this
    exact ⟨_, this⟩
  · obtain ⟨d, records, hfront, hd, hlength, hlt⟩ := front_of_decode h
    have cut : b.take n = Header.front d 0 ++ records.take (n - 16) := by
      rw [hfront, List.take_append, List.take_of_length_le (by
        rw [Header.length_front, Header.size]
        omega)]
      rfl
    have := decode_of_truncated (α := α) cut hd hlt (by omega)
    rw [len] at this
    exact ⟨_, this⟩

theorem decode_append (h : decode b = .ok g) {t : Bytes} (ht : t ≠ []) :
    decode (α := α) (b ++ t) =
      refuse (.dimensionMismatch "binary stream length" b.length (b.length + t.length)) := by
  obtain ⟨d, records, hfront, hd, hlength, hlt⟩ := front_of_decode h
  have longer := List.length_pos_iff.mpr ht
  have grown : b ++ t = Header.front d 0 ++ (records ++ t) := by rw [hfront, List.append_assoc]
  have := decode_of_trailing (α := α) grown hd hlt (by rw [List.length_append]; omega)
  rwa [List.length_append, ← hlength] at this

end Cases

/-- Every byte string that memory can hold is told apart by its front and its length. -/
theorem classified_of_lawful {α : Type} [Record α] [Cell α] [Record.Lawful α] {b : Bytes}
    (hb : b.length ≤ Size.maxBytes) : Classified α (Record.size α) b where
  noFault := decode_ne_fault hb
  shortFront := decode_of_short
  unsoundFront := decode_of_unsound
  shortBody := decode_of_shortBody
  longBody := decode_of_longBody
  whole := decode_of_whole hb
  prefix_truncated hg _ hn := decode_take hg hn
  extension_mismatched hg _ ht := decode_append hg ht

/-- No byte string is accepted with records of two sizes: the same front declares two lengths. -/
theorem size_eq_of_decode {α β : Type} [Record α] [Cell α] [Record β] [Cell β] {b : Bytes}
    {g : Grid α} {m : Grid β} (hg : decode b = .ok g) (hm : decode b = .ok m) :
    Record.size α = Record.size β := by
  obtain ⟨d, records, hfront, hd, hlength, -⟩ := front_of_decode hg
  obtain ⟨d', records', hfront', -, hlength', -⟩ := front_of_decode hm
  have same := (cells_front hfront).symm.trans (cells_front hfront')
  unfold Header.declaredLength at hlength hlength'
  rw [hlength, same, Nat.add_left_cancel_iff] at hlength'
  exact Nat.eq_of_mul_eq_mul_right (same ▸ hd.cellCount_pos) hlength'

/-- Byte strings are voxel grids, majorant grids or neither, and what they are refused for is
decided by their front and their length. -/
theorem classified {b : Bytes} (hb : b.length < 2 ^ 63) :
    Classified Voxel 48 b ∧ Classified Rgb 16 b ∧
      ∀ (g : VoxelGrid) (m : Grid Rgb), ¬ (decode b = .ok g ∧ decode b = .ok m) := by
  have room : b.length ≤ Size.maxBytes := by
    unfold Size.maxBytes
    omega
  refine ⟨classified_of_lawful (α := Voxel) room, classified_of_lawful (α := Rgb) room, ?_⟩
  rintro g m ⟨hg, hm⟩
  exact absurd (size_eq_of_decode hg hm) (by decide)

/-- A stream of two majorants is too short for two voxels. -/
theorem classified_short_for_voxels : (padded ⟨2, 1, 1⟩ 2).length < 2 ^ 63 ∧
    (∃ m : Grid Rgb, decode (padded ⟨2, 1, 1⟩ 2) = .ok m ∧ m.values.size = 2) ∧
      decode (α := Voxel) (padded ⟨2, 1, 1⟩ 2) = refuse (.truncatedStream 112 48) := by
  obtain ⟨voxels, majorants, -⟩ := classified (b := padded ⟨2, 1, 1⟩ 2) (by decide)
  have front (recordSize : Nat) (h : recordSize ≤ 48) :
      SoundFront recordSize (padded ⟨2, 1, 1⟩ 2) := by
    have count : cells (padded ⟨2, 1, 1⟩ 2) = 2 := by decide
    refine ⟨by decide, by decide, by decide, by decide, by decide, ?_⟩
    rw [wholeLength, count]
    omega
  refine ⟨by decide, ?_, voxels.shortBody (by decide) (front 48 (by decide)) (by decide)⟩
  obtain ⟨m, hm, -, -, -, -, hsize⟩ := majorants.whole (by decide) (front 16 (by decide)) (by decide)
  exact ⟨m, hm, hsize⟩

end Binary

end DenseMedium
