import DenseMedium.Proofs.Binary.Records
import DenseMedium.Proofs.Lattice.Dimensions

/-!
Headers and whole streams.

* `Header.readStream_eq_ok`: a stream is accepted exactly when its front is the encoding of valid
  dimensions and a zero word, and its length is the one that they declare. The other lemmas on
  `readStream` name the error of every other stream.
* `Binary.decode_eq_ok`: a stream becomes a grid exactly when it is accepted; the grid lies over the
  declared extent and its values are those whose encodings make up the rest of the stream, up to
  padding. Nothing can fail after the header was accepted.
-/

namespace DenseMedium

namespace Header

variable {b : Bytes} {d : Dimensions} {reserved : UInt32} {recordSize : Nat}

/-- The bytes of a header with any reserved word. -/
def front (d : Dimensions) (reserved : UInt32) : Bytes :=
  LittleEndian.encode d.width ++ (LittleEndian.encode d.height ++
    (LittleEndian.encode d.depth ++ LittleEndian.encode reserved))

@[simp] theorem length_front (d : Dimensions) (reserved : UInt32) :
    (front d reserved).length = size := rfl

theorem flatten_pieces (h : Header) : h.pieces.flatten = front h.dimensions 0 := rfl

/-- The words at the front are read exactly where their bytes stand. -/
theorem words?_eq_some :
    words? b = some (d, reserved) ↔ ∃ rest, b = front d reserved ++ rest := by
  simp only [words?, Option.bind_eq_bind, Option.bind_eq_some_iff, Option.pure_def, Prod.exists,
    LittleEndian.decode?_eq_some, Option.some.injEq, Prod.mk.injEq, front, List.append_assoc]
  constructor
  · rintro ⟨w, _, rfl, h, _, rfl, d, _, rfl, r, rest, rfl, rfl, rfl⟩
    exact ⟨rest, rfl⟩
  · rintro ⟨rest, rfl⟩
    exact ⟨_, _, rfl, _, _, rfl, _, _, rfl, _, rest, rfl, rfl, rfl⟩

theorem exists_words (h : size ≤ b.length) : ∃ d reserved, words? b = some (d, reserved) := by
  obtain ⟨c, pad, rest, hb⟩ := Rgb.exists_words (s := b) h
  refine ⟨⟨c.r.bits, c.g.bits, c.b.bits⟩, pad, words?_eq_some.mpr ⟨rest, ?_⟩⟩
  rw [hb]
  simp only [front, List.append_assoc]

theorem words?_eq_none : words? b = none ↔ b.length < size := by
  constructor
  · intro h
    by_contra long
    obtain ⟨d, reserved, found⟩ := exists_words (Nat.not_lt.mp long)
    rw [h] at found
    contradiction
  · intro h
    cases hb : words? b with
    | none => rfl
    | some found =>
      obtain ⟨rest, hb⟩ := words?_eq_some.mp hb
      have := congrArg List.length hb
      rw [List.length_append, length_front] at this
      omega

/-! ### Declared lengths -/

/-- The bytes of a stream with the given dimensions and records of `recordSize` bytes. -/
def declaredLength (d : Dimensions) (recordSize : Nat) : Nat := size + recordSize * d.cellCount

/-- The declared length of a stream, if it is a size. The partial products do not matter, since
every dimension is positive. -/
theorem streamLength?_eq_some (hd : d.Valid) {n : Nat} :
    streamLength? ⟨d⟩ recordSize = some n ↔
      declaredLength d recordSize < Size.bound ∧ n = declaredLength d recordSize := by
  have regroup : recordSize * d.width.toNat * d.height.toNat * d.depth.toNat =
      recordSize * d.cellCount := by
    unfold Dimensions.cellCount
    simp only [Nat.mul_assoc]
  simp only [streamLength?, Option.bind_eq_bind, Option.bind_eq_some_iff, Size.mul?_eq_some,
    Size.add?_eq_some]
  unfold declaredLength
  rw [Nat.add_comm]
  constructor
  · rintro ⟨_, ⟨-, rfl⟩, _, ⟨-, rfl⟩, _, ⟨-, rfl⟩, hn, rfl⟩
    rw [regroup] at hn ⊢
    exact ⟨hn, rfl⟩
  · rintro ⟨hn, rfl⟩
    obtain ⟨-, ⟨hheight, -⟩, ⟨hdepth, -⟩, -⟩ := hd
    rw [← regroup] at hn ⊢
    have rows_le := Nat.le_mul_of_pos_right (recordSize * d.width.toNat) hheight
    have planes_le :=
      Nat.le_mul_of_pos_right (recordSize * d.width.toNat * d.height.toNat) hdepth
    exact ⟨_, ⟨by omega, rfl⟩, _, ⟨by omega, rfl⟩, _, ⟨by omega, rfl⟩, hn, rfl⟩

/-! ### Whole streams, case by case -/

theorem extent_of_valid (hd : d.Valid) : extent ⟨d⟩ = .ok d.extent := by
  unfold extent
  rw [Extent.ofDimensions?_eq_some.mpr ⟨hd, rfl⟩]

theorem extent_of_not_valid (hd : ¬ d.Valid) :
    extent ⟨d⟩ = refuse (.headerInvalid (.dimensions d)) := by
  unfold extent
  rw [Extent.ofDimensions?_eq_none.mpr hd]

theorem read_of_valid (h : words? b = some (d, 0)) (hd : d.Valid) : read b = .ok ⟨d⟩ := by
  simp only [read, h, ne_eq, not_true_eq_false, if_false, extent_of_valid hd, ok_bind, pure_eq_ok]

theorem readStream_of_short (h : b.length < size) :
    readStream b recordSize = refuse (.truncatedStream size b.length) := by
  unfold readStream read
  rw [words?_eq_none.mpr h]
  rfl

theorem readStream_of_reserved (h : words? b = some (d, reserved)) (hr : reserved ≠ 0) :
    readStream b recordSize = refuse (.headerInvalid (.reserved reserved)) := by
  simp only [readStream, read, h, if_pos hr]
  rfl

theorem readStream_of_not_valid (h : words? b = some (d, 0)) (hd : ¬ d.Valid) :
    readStream b recordSize = refuse (.headerInvalid (.dimensions d)) := by
  simp only [readStream, read, h, extent_of_not_valid hd]
  rfl

theorem readStream_of_overflow (h : words? b = some (d, 0)) (hd : d.Valid)
    (ho : ¬ declaredLength d recordSize < Size.bound) :
    readStream b recordSize = refuse (.headerInvalid (.overflow d)) := by
  have none : streamLength? ⟨d⟩ recordSize = none := by
    rw [Option.eq_none_iff_forall_ne_some]
    intro n hn
    exact ho ((streamLength?_eq_some hd).mp hn).1
  unfold readStream streamLength
  rw [read_of_valid h hd, ok_bind, extent_of_valid hd, ok_bind, none]
  rfl

/-- A stream with a sound header is judged by its length alone. -/
theorem readStream_of_sound (h : words? b = some (d, 0)) (hd : d.Valid)
    (ho : declaredLength d recordSize < Size.bound) :
    readStream b recordSize =
      if b.length < declaredLength d recordSize then
        refuse (.truncatedStream (declaredLength d recordSize) b.length)
      else if declaredLength d recordSize < b.length then
        refuse (.dimensionMismatch "binary stream length" (declaredLength d recordSize) b.length)
      else .ok (⟨d⟩, d.extent) := by
  unfold readStream streamLength
  rw [read_of_valid h hd, ok_bind, extent_of_valid hd, ok_bind,
    (streamLength?_eq_some hd).mpr ⟨ho, rfl⟩]
  rfl

/-- The accepted streams. -/
theorem readStream_eq_ok {found : Header × Extent} :
    readStream b recordSize = .ok found ↔
      ∃ d : Dimensions, found = (⟨d⟩, d.extent) ∧ d.Valid ∧ (∃ rest, b = front d 0 ++ rest) ∧
        b.length = declaredLength d recordSize ∧ declaredLength d recordSize < Size.bound := by
  constructor
  · intro hok
    by_cases short : b.length < size
    · rw [readStream_of_short short] at hok
      cases hok
    obtain ⟨d, reserved, hw⟩ := exists_words (Nat.not_lt.mp short)
    by_cases hr : reserved = 0
    · subst hr
      by_cases hd : d.Valid
      · by_cases ho : declaredLength d recordSize < Size.bound
        · rw [readStream_of_sound hw hd ho] at hok
          split at hok
          · cases hok
          · split at hok
            · cases hok
            · cases hok
              exact ⟨d, rfl, hd, words?_eq_some.mp hw, by omega, ho⟩
        · rw [readStream_of_overflow hw hd ho] at hok
          cases hok
      · rw [readStream_of_not_valid hw hd] at hok
        cases hok
    · rw [readStream_of_reserved hw hr] at hok
      cases hok
  · rintro ⟨d, rfl, hd, hfront, hlength, ho⟩
    rw [readStream_of_sound (words?_eq_some.mpr hfront) hd ho, if_neg (by omega),
      if_neg (by omega)]

end Header

/-! ### Decoding -/

namespace Binary

variable {α : Type} [Record α] [Cell α] [Record.Lawful α] {b : Bytes}

omit [Record.Lawful α] in
theorem decode_of_error {x : Failure}
    (h : Header.readStream b (Record.size α) = .error x) : decode (α := α) b = .error x := by
  unfold decode
  rw [h, error_bind]

/-- Behind an accepted header there is room for the values, and all of them are read. -/
theorem decode_of_readStream (hb : b.length ≤ Size.maxBytes) {d : Dimensions}
    (h : Header.readStream b (Record.size α) = .ok (⟨d⟩, d.extent)) :
    ∃ vs : List α, readRecords d.cellCount (b.drop Header.size) = some vs ∧
      decode b = .ok ⟨d.extent, vs.toArray⟩ := by
  obtain ⟨d', hd', hd, -, hlength, -⟩ := Header.readStream_eq_ok.mp h
  cases hd'
  unfold Header.declaredLength at hlength
  have room : d.cellCount * Cell.width α ≤ Size.maxBytes := by
    have := Nat.mul_le_mul_left d.cellCount (Record.Lawful.width_le_size (α := α))
    rw [Nat.mul_comm] at hlength
    omega
  obtain ⟨vs, hvs⟩ := exists_readRecords (α := α) (n := d.cellCount) (s := b.drop Header.size) (by
    rw [List.length_drop, Nat.mul_comm]
    omega)
  have count := (readRecords_eq_some.mp hvs).1
  refine ⟨vs, hvs, ?_⟩
  unfold decode
  rw [h, ok_bind]
  simp only [hd.pointCount_eq_ok, lift_ok, ok_bind, Size.reserve_eq_ok.mpr room, hvs, Grid.ofValues,
    List.size_toArray, count, ne_eq, not_true_eq_false, if_false, pure_eq_ok]

/-- Records that hold the values of a grid fill the stream. -/
theorem length_records {records : Bytes} {vs : List α}
    (h : clearPadding records = body vs) : records.length = vs.length * Record.size α := by
  rw [← length_clearPadding, h, length_body]

/-- A header before the records of its grid is accepted. -/
theorem readStream_of_records {d : Dimensions} {vs : List α} {records : Bytes} (hd : d.Valid)
    (count : vs.length = d.cellCount) (hrecords : clearPadding records = body vs)
    (hb : (Header.front d 0 ++ records).length ≤ Size.maxBytes) :
    Header.readStream (Header.front d 0 ++ records) (Record.size α) = .ok (⟨d⟩, d.extent) := by
  have len := length_records hrecords
  rw [count, Nat.mul_comm] at len
  rw [List.length_append, Header.length_front] at hb
  refine Header.readStream_eq_ok.mpr ⟨d, rfl, hd, ⟨records, rfl⟩, ?_, ?_⟩
  · rw [List.length_append, Header.length_front, Header.declaredLength, len]
  · unfold Header.declaredLength
    unfold Size.maxBytes at hb
    unfold Size.bound
    omega

/-- The streams that are decoded, and their grids. -/
theorem decode_eq_ok (hb : b.length ≤ Size.maxBytes) {g : Grid α} :
    decode b = .ok g ↔ ∃ (d : Dimensions) (vs : List α) (records : Bytes),
      g = ⟨d.extent, vs.toArray⟩ ∧ d.Valid ∧ vs.length = d.cellCount ∧
        b = Header.front d 0 ++ records ∧ clearPadding records = body vs := by
  constructor
  · intro hok
    cases hs : Header.readStream b (Record.size α) with
    | error x =>
      rw [decode_of_error hs] at hok
      cases hok
    | ok found =>
      obtain ⟨d, rfl, hd, ⟨records, rfl⟩, hlength, -⟩ := Header.readStream_eq_ok.mp hs
      obtain ⟨vs, hvs, hdecode⟩ := decode_of_readStream hb hs
      rw [hdecode] at hok
      cases hok
      rw [List.drop_left' (Header.length_front d 0)] at hvs
      obtain ⟨count, records', rest, rfl, hrecords⟩ := readRecords_eq_some.mp hvs
      -- The declared length leaves nothing after the records.
      have empty : rest = [] := by
        have len := length_records hrecords
        rw [count, Nat.mul_comm] at len
        simp only [List.length_append, Header.length_front, Header.declaredLength] at hlength
        exact List.eq_nil_of_length_eq_zero (by omega)
      subst empty
      exact ⟨d, vs, records' ++ [], rfl, hd, count, rfl, by rwa [List.append_nil]⟩
  · rintro ⟨d, vs, records, rfl, hd, count, rfl, hrecords⟩
    obtain ⟨ws, hws, hdecode⟩ :=
      decode_of_readStream hb (readStream_of_records hd count hrecords hb)
    rw [List.drop_left' (Header.length_front d 0)] at hws
    rw [readRecords_eq_some.mpr ⟨count, records, [], (List.append_nil _).symm, hrecords⟩] at hws
    cases hws
    exact hdecode

/-- Decoding fails as the header does, and in no other way. -/
theorem decode_eq_error (hb : b.length ≤ Size.maxBytes) {x : Failure} :
    decode (α := α) b = .error x ↔ Header.readStream b (Record.size α) = .error x := by
  constructor
  · intro herror
    cases hs : Header.readStream b (Record.size α) with
    | error y =>
      rw [decode_of_error hs] at herror
      cases herror
      rfl
    | ok found =>
      obtain ⟨d, rfl, -⟩ := Header.readStream_eq_ok.mp hs
      obtain ⟨vs, -, hdecode⟩ := decode_of_readStream hb hs
      rw [hdecode] at herror
      cases herror
  · exact decode_of_error

end Binary

end DenseMedium
