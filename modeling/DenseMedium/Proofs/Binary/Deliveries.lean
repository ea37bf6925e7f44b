import DenseMedium.Proofs.Binary.RoundTrip
import DenseMedium.Proofs.Stream.Deliveries

/-!
Binary writing into a sink that runs full.

* `cutAnywhere_write`: what a sink with any room has taken of a grid is the front of its stream.
* `write_cut_anywhere`: the same of grids of voxels and of majorants, of a header and of a record,
  and writing ends well exactly when the room is enough.
-/

namespace DenseMedium

namespace Binary

variable {α : Type} [Record α] {g : Grid α}

/-- Writing a record on its own. -/
theorem cutAnywhere_record (v : α) :
    CutAnywhere (Record.pieces v) (Record.encode v) (.ofPieces · (Record.pieces v)) :=
  cutAnywhere (Record.pieces v)

/-- Writing a header on its own. -/
theorem cutAnywhere_header (h : Header) :
    CutAnywhere h.pieces (Header.front h.dimensions 0) (.ofPieces · h.pieces) := by
  rw [← Header.flatten_pieces]
  exact cutAnywhere h.pieces

/-- Writing a grid, whatever the record. -/
theorem cutAnywhere_write (h : Header.size + Record.size α * g.values.size ≤ Size.maxBytes) :
    ∃ b, encode g = .ok b ∧ CutAnywhere (pieces g) b (write · g) := by
  refine ⟨stream g, encode_eq_ok h, ?_⟩
  rw [← flatten_pieces]
  exact cutAnywhere (pieces g)

/-- Wherever a sink ends, inside a word, between the vectors of a record or between two records, it
has exactly the front of the stream that there was room for, and the writer is told if something is
missing. That holds of grids of both kinds, of headers and of records. -/
theorem write_cut_anywhere :
    (∀ g : Grid Voxel, 16 + 48 * g.values.size ≤ 2 ^ 63 - 1 →
      ∃ b, encode g = .ok b ∧ CutAnywhere (pieces g) b (write · g)) ∧
    (∀ g : Grid Rgb, 16 + 16 * g.values.size ≤ 2 ^ 63 - 1 →
      ∃ b, encode g = .ok b ∧ CutAnywhere (pieces g) b (write · g)) ∧
    (∀ h : Header, CutAnywhere h.pieces (Header.front h.dimensions 0) (.ofPieces · h.pieces)) ∧
    (∀ v : Voxel,
      CutAnywhere (Record.pieces v) (Record.encode v) (.ofPieces · (Record.pieces v))) ∧
    ∀ c : Rgb, CutAnywhere (Record.pieces c) (Record.encode c) (.ofPieces · (Record.pieces c)) :=
  ⟨fun _ h => cutAnywhere_write h, fun _ h => cutAnywhere_write h, cutAnywhere_header,
    cutAnywhere_record, cutAnywhere_record⟩

/-- Two majorants into a sink that ends inside the blue channel of the first: it has the header and
ten bytes. With room for all 48 bytes the writing ends well. -/
theorem write_cut_inside_word :
    let g : Grid Rgb := ⟨⟨⟨-1, 2, 3⟩, ⟨2, 1, 1⟩⟩, #[⟨⟨1⟩, ⟨2⟩, ⟨0x04030201⟩⟩, Rgb.zero]⟩
    (write 26 g).taken =
        [2, 0, 0, 0, 1, 0, 0, 0, 1, 0, 0, 0, 0, 0, 0, 0, 1, 0, 0, 0, 2, 0, 0, 0, 1, 2] ∧
      (∃ e, (write 26 g).result = .error (.io e)) ∧ (write 48 g).result = .ok () := by
  intro g
  obtain ⟨b, hb, cut⟩ := write_cut_anywhere.2.1 g (by decide)
  cases hb
  refine ⟨?_, (cut.cutAt 26).result_eq_error (by decide), ?_⟩
  · rw [(cut.cutAt 26).taken_eq]
    decide
  · exact (cut.cutAt 48).result_eq_ok.mpr (by decide)

end Binary

end DenseMedium
