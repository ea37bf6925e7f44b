import DenseMedium.Binary.View
import DenseMedium.Proofs.Binary.Headers
import DenseMedium.Proofs.Grid.Access

/-!
Reading in place agrees with decoding.

`view_agrees`: a view of a byte string can be made exactly when the string decodes, with the same
error otherwise; the view and the grid then lie over one extent and answer alike at every point, in
the extent or outside it. The record of a member is looked up inside the bytes.
-/

namespace DenseMedium

namespace Binary

/-- A decoded grid has one value for each of its points. -/
theorem complete_of_valid {α : Type} {d : Dimensions} (hd : d.Valid) {vs : List α}
    (hvs : vs.length = d.cellCount) : (⟨d.extent, vs.toArray⟩ : Grid α).Complete where
  positive := hd.positive
  bounded := ⟨_, Dimensions.Valid.leastUpperBound d⟩
  size_eq := by rw [List.size_toArray, hvs, hd.volume_eq]
  size_lt := by rw [List.size_toArray, hvs]; exact hd.2.2.2

end Binary

namespace View

variable {α : Type} [Record α] [Cell α] [Record.Lawful α] {b : Bytes} {d : Dimensions} {p : Point}

omit [Cell α] [Record.Lawful α] in
theorem ofBytes_eq_ok {v : View α} : ofBytes b = .ok v ↔ v.bytes = b ∧
    Header.readStream b (Record.size α) = .ok (v.header, v.extent) := by
  unfold ofBytes
  rw [bind_eq_ok]
  constructor
  · rintro ⟨⟨h, e⟩, hs, hv⟩
    cases hv
    exact ⟨rfl, hs⟩
  · rintro ⟨rfl, hs⟩
    exact ⟨_, hs, rfl⟩

omit [Cell α] [Record.Lawful α] in
theorem ofBytes_eq_error {x : Failure} :
    ofBytes (α := α) b = .error x ↔ Header.readStream b (Record.size α) = .error x := by
  unfold ofBytes
  cases Header.readStream b (Record.size α) with
  | error y => simp
  | ok found => simp

/-- Where the look-up of a point goes: its stride, and a place of record size inside the bytes. -/
structure Located (v : View α) (p : Point) (stride first : Nat) : Prop where
  stride_eq : ∃ start, p.sub v.extent.minimum = .ok start ∧
    Stride.ofLocal v.extent.shape start = .ok stride
  offset_eq : offset α stride = .ok first
  inside : first + Record.size α ≤ v.bytes.length

omit [Cell α] [Record.Lawful α] in
/-- A stride below the number of records has its record inside the stream. -/
theorem offset_eq_ok {count stride : Nat} (hs : stride < count)
    (hb : b.length = Header.size + Record.size α * count) (hlt : b.length < Size.bound) :
    offset α stride = .ok (Header.size + stride * Record.size α) ∧
      Header.size + stride * Record.size α + Record.size α ≤ b.length := by
  have next := Nat.mul_le_mul_right (Record.size α) (Nat.succ_le_of_lt hs)
  rw [Nat.succ_mul] at next
  rw [Nat.mul_comm] at hb
  unfold offset
  rw [Size.mul_ok (by omega), ok_bind, Size.add_ok (by omega)]
  exact ⟨rfl, by omega⟩

/-- Looking up a member of the extent. -/
theorem get_of_mem (hd : d.Valid) (hlength : b.length = Header.declaredLength d (Record.size α))
    (hlt : b.length < Size.bound) {vs : List α}
    (hvs : Binary.readRecords d.cellCount (b.drop Header.size) = some vs) (hp : p ∈ d.extent) :
    ∃ r first, vs[d.extent.rank p]? = some r ∧
      Located (⟨b, ⟨d⟩, d.extent⟩ : View α) p (d.extent.rank p) first ∧
      get (⟨b, ⟨d⟩, d.extent⟩ : View α) p = .ok r := by
  have count := (Binary.readRecords_eq_some.mp hvs).1
  have rank_lt : d.extent.rank p < d.cellCount := hd.volume_eq ▸ Extent.rank_lt hp
  obtain ⟨r, hr⟩ : ∃ r, vs[d.extent.rank p]? = some r :=
    ⟨_, List.getElem?_eq_getElem (count ▸ rank_lt)⟩
  obtain ⟨start, hstart, hx, hy, hz⟩ := Extent.sub_minimum hp
  have stride := Extent.ofLocal_eq_rank hp (hd.volume_eq ▸ hd.2.2.2) hx hy hz
  obtain ⟨hoffset, inside⟩ := offset_eq_ok (α := α) rank_lt hlength hlt
  refine ⟨r, _, hr, ⟨⟨start, hstart, stride⟩, hoffset, inside⟩, ?_⟩
  have bytes : (b.take (Header.size + d.extent.rank p * Record.size α + Record.size α)).drop
      (Header.size + d.extent.rank p * Record.size α) =
      ((b.drop Header.size).drop (d.extent.rank p * Record.size α)).take (Record.size α) := by
    rw [List.drop_take, List.drop_drop, Nat.add_sub_cancel_left]
  unfold get
  simp only [Extent.contains_eq_ok (Dimensions.Valid.leastUpperBound d), decide_eq_true hp, lift_ok,
    ok_bind, if_true, hstart, stride, hoffset, Size.add_ok (Nat.lt_of_le_of_lt inside hlt), bytes,
    Binary.read?_of_readRecords hvs hr, pure_eq_ok]

omit [Cell α] [Record.Lawful α] in
theorem get_of_not_mem (hp : p ∉ d.extent) :
    get (⟨b, ⟨d⟩, d.extent⟩ : View α) p = refuse (.outOfBounds p d.extent.dimensions) := by
  unfold get
  simp only [Extent.contains_eq_ok (Dimensions.Valid.leastUpperBound d), decide_eq_false hp,
    lift_ok, ok_bind, Bool.false_eq_true, if_false]
  rfl

/-- A view, the grid decoded from its bytes, and their answers at every point. -/
theorem get_eq_decoded (room : b.length ≤ Size.maxBytes) {v : View α} (hv : ofBytes b = .ok v) :
    ∃ g : Grid α, Binary.decode b = .ok g ∧ v.extent = g.extent ∧ (∀ p, v.get p = g.get p) ∧
      ∀ p ∈ v.extent, ∃ r first, v.get p = .ok r ∧ Located v p (v.extent.rank p) first := by
  have small : b.length < Size.bound := Nat.lt_of_le_of_lt room (by decide)
  obtain ⟨rfl, hs⟩ := ofBytes_eq_ok.mp hv
  obtain ⟨bytes, header, extent⟩ := v
  obtain ⟨d, hfound, hd, -, hlength, -⟩ := Header.readStream_eq_ok.mp hs
  obtain ⟨rfl, rfl⟩ := Prod.mk.inj hfound
  obtain ⟨vs, hvs, hdecode⟩ := Binary.decode_of_readStream room hs
  have complete := Binary.complete_of_valid hd (Binary.readRecords_eq_some.mp hvs).1
  refine ⟨_, hdecode, rfl, ?_, ?_⟩
  · intro p
    by_cases hp : p ∈ d.extent
    · obtain ⟨r, first, hr, -, hget⟩ := get_of_mem hd hlength small hvs hp
      rw [hget]
      exact ((Grid.get_eq_ok complete).mpr ⟨hp, by rwa [List.getElem?_toArray]⟩).symm
    · rw [get_of_not_mem hp, Grid.get, Grid.stride_of_not_mem complete hp]
      rfl
  · intro p hp
    obtain ⟨r, first, -, hlocated, hget⟩ := get_of_mem hd hlength small hvs hp
    exact ⟨r, first, hget, hlocated⟩

/-- Bytes that decode have a view, and it answers like the grid. -/
theorem exists_of_decode (room : b.length ≤ Size.maxBytes) {g : Grid α}
    (h : Binary.decode b = .ok g) :
    ∃ v : View α, ofBytes b = .ok v ∧ v.extent = g.extent ∧ ∀ p, v.get p = g.get p := by
  cases hv : ofBytes (α := α) b with
  | error x =>
    have := (Binary.decode_eq_error (α := α) room).mpr (ofBytes_eq_error.mp hv)
    rw [h] at this
    contradiction
  | ok v =>
    obtain ⟨g', hg', extent, same, -⟩ := get_eq_decoded room hv
    rw [h] at hg'
    cases hg'
    exact ⟨v, rfl, extent, same⟩

/-- A view can be made exactly when decoding succeeds, with the same error otherwise. The view and
the grid have one extent and give the same answer at every point, which is a record at each point of
the extent, and that record is looked up inside the bytes. -/
theorem view_agrees (hb : b.length < 2 ^ 63) :
    (∀ x, ofBytes (α := α) b = .error x ↔ Binary.decode (α := α) b = .error x) ∧
      ∀ v : View α, ofBytes b = .ok v → ∃ g : Grid α, Binary.decode b = .ok g ∧
        v.extent = g.extent ∧ v.dimensions = g.dimensions ∧ (∀ p, v.get p = g.get p) ∧
        ∀ p ∈ v.extent, ∃ r stride first, v.get p = .ok r ∧ v.bytes = b ∧
          Located v p stride first := by
  have room : b.length ≤ Size.maxBytes := by unfold Size.maxBytes; omega
  refine ⟨fun x => ofBytes_eq_error.trans (Binary.decode_eq_error room).symm, ?_⟩
  intro v hv
  obtain ⟨g, hdecode, extent, same, located⟩ := get_eq_decoded room hv
  refine ⟨g, hdecode, extent, congrArg Extent.dimensions extent, same, fun p hp => ?_⟩
  obtain ⟨r, first, hget, hlocated⟩ := located p hp
  exact ⟨r, _, first, hget, (ofBytes_eq_ok.mp hv).1, hlocated⟩

/-- Two majorants and one voxel, read in place. -/
theorem view_agrees_both_records :
    ((Binary.padded ⟨2, 1, 1⟩ 2).length < 2 ^ 63 ∧ ∃ (v : View Rgb) (g : Grid Rgb),
      ofBytes (Binary.padded ⟨2, 1, 1⟩ 2) = .ok v ∧
        Binary.decode (Binary.padded ⟨2, 1, 1⟩ 2) = .ok g ∧ ∀ p, v.get p = g.get p) ∧
      ((Binary.padded ⟨1, 1, 1⟩ 3).length < 2 ^ 63 ∧ ∃ (v : View Voxel) (g : Grid Voxel),
        ofBytes (Binary.padded ⟨1, 1, 1⟩ 3) = .ok v ∧
          Binary.decode (Binary.padded ⟨1, 1, 1⟩ 3) = .ok g ∧ ∀ p, v.get p = g.get p) := by
  refine ⟨⟨by decide, ?_⟩, by decide, ?_⟩
  · obtain ⟨g, hg, -, -, same, -⟩ := (view_agrees (α := Rgb) (b := Binary.padded ⟨2, 1, 1⟩ 2)
      (by decide)).2 _ rfl
    exact ⟨_, g, rfl, hg, same⟩
  · obtain ⟨g, hg, -, -, same, -⟩ := (view_agrees (α := Voxel) (b := Binary.padded ⟨1, 1, 1⟩ 3)
      (by decide)).2 _ rfl
    exact ⟨_, g, rfl, hg, same⟩

end View

end DenseMedium
