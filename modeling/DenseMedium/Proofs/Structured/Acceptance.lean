import DenseMedium.Proofs.Structured.Defects
import DenseMedium.Proofs.Structured.Recognition

/-!
Which structured documents are accepted, and as which grids.

`decode_described`: a text of a document decodes exactly when the declared dimensions stand for an
extent, the lists are nested as they say, and every component fits single precision. Then the grid
lies at the origin, has the declared dimensions, and holds each record at its own place. Otherwise
the text is refused with the defect of the document, of which the first in the order of
`Document.Defect` counts.

`decode_eq_ok`: nothing else decodes. Every text with a grid is a text of a document.
-/

namespace DenseMedium

namespace Structured

open Json

variable {text : String} {d : Document}

/-- Reading a text of a document leaves only the document to be checked. -/
theorem decode_eq_toGrid (h : d.IsText (Utf8.bytes text)) : decode text = d.toGrid := by
  unfold decode decodeBytes
  rw [Document.read_text_eq_ok h]

/-- A text decodes exactly when it is a text of a document with a grid. -/
theorem decode_eq_ok {g : VoxelGrid} :
    decode text = .ok g ↔ ∃ d : Document, d.IsText (Utf8.bytes text) ∧ d.toGrid = .ok g := by
  constructor
  · intro h
    unfold decode decodeBytes at h
    split at h
    · rename_i d reading
      exact ⟨d, Document.read_eq_ok.mp reading, h⟩
    · contradiction
  · rintro ⟨d, isText, h⟩
    rw [decode_eq_toGrid isText, h]

/-- A record of two triples does not emit. -/
theorem emission_of_two {a s : Value} {r : RawRecord} (h : (Value.list [a, s]).record? = some r) :
    r.narrow.emission = Rgb.zero := by
  obtain ⟨sigmaA, -, h⟩ := Option.bind_eq_some_iff.mp h
  obtain ⟨sigmaS, -, h⟩ := Option.bind_eq_some_iff.mp h
  cases h
  exact Components.narrow_zero

/-- A text of a document is accepted for its shape and the size of its components alone, puts every
record in its place, and is otherwise refused with its first defect. -/
theorem decode_described (h : d.IsText (Utf8.bytes text)) :
    ((∃ g, decode text = .ok g) ↔
      d.dimensions.Valid ∧ d.Nested ∧ ∀ r ∈ d.records, r.narrow.isFinite = true) ∧
    (∀ g, decode text = .ok g →
      g.extent.minimum = Point.zero ∧ g.extent.shape.x.toInt = d.width.toNat ∧
      g.extent.shape.y.toInt = d.height.toNat ∧ g.extent.shape.z.toInt = d.depth.toNat ∧
      ∀ p ∈ g.extent, ∃ r, d.recordAt p = some r ∧ g.get p = .ok r.narrow) ∧
    (∀ a s r, (Value.list [a, s]).record? = some r → r.narrow.emission = Rgb.zero) ∧
    ∀ x, decode text = .error x ↔ ∃ e, d.Defect e ∧ x = .refused e := by
  rw [decode_eq_toGrid h]
  refine ⟨Document.exists_toGrid_eq_ok, fun g hg => ?_, fun _ _ _ => emission_of_two,
    fun _ => Document.toGrid_eq_error⟩
  obtain ⟨valid, -, -, rfl⟩ := Document.toGrid_eq_ok.mp hg
  obtain ⟨width, height, depth⟩ := valid.shape_toInt
  exact ⟨rfl, width, height, depth, fun p hp => Document.get_of_toGrid hg hp⟩

/-! ### A ragged document -/

/-- A number of one digit. -/
def digitValue (n : Nat) : Value := .number false ⟨[n], [], none⟩

/-- A record of two triples of one number. -/
def greyRecord (n : Nat) : Value :=
  let grey := .list [digitValue n, digitValue n, digitValue n]
  .list [grey, grey]

/-- What the record is read as. -/
def grey (n : Nat) : RawRecord :=
  let cs : Components := ⟨.ofInt n, .ofInt n, .ofInt n⟩
  ⟨cs, cs, .zero⟩

/-- As many records as the dimensions say, in planes of the right number of rows, but one row is too
long and another one too short. -/
def ragged : Value :=
  .object [(Ascii.encode "depth", digitValue 2), (Ascii.encode "x", .null),
    (Ascii.encode "grid", .list [.list [.list [greyRecord 1, greyRecord 2, greyRecord 3]],
      .list [.list [greyRecord 4]]]),
    (Ascii.encode "width", digitValue 2), (Ascii.encode "height", digitValue 1)]

/-- The document of `ragged`. -/
def raggedDocument : Document := ⟨2, 1, 2, [[[grey 1, grey 2, grey 3]], [[grey 4]]]⟩

/-- A value that is written in ASCII has a string for a text. -/
theorem isDocument_decode {v : Value} (wellFormed : v.WellFormed)
    (ascii : Ascii.IsAscii v.text) : v.IsDocument (Utf8.bytes (Ascii.decode v.text)) := by
  rw [Ascii.bytes_decode ascii]
  exact isDocument_text wellFormed

theorem digitValue_wellFormed {n : Nat} (h : n < 10) : (digitValue n).WellFormed := by
  rw [digitValue, Value.WellFormed]
  exact ⟨by simp, by simpa using h, by simp, nofun, nofun⟩

theorem ragged_isText : raggedDocument.IsText (Utf8.bytes (Ascii.decode ragged.text)) := by
  have ascii : Ascii.IsAscii ragged.text := by decide +kernel
  have other : PlainName "x" := .of_all (by decide) (by decide)
  have wellFormed : ragged.WellFormed := by
    simp [ragged, greyRecord, Value.WellFormed, Value.WellFormedItems, Value.WellFormedMembers,
      digitValue_wellFormed, plainName_width.isString, plainName_height.isString,
      plainName_depth.isString, plainName_grid.isString, other.isString]
  exact ⟨ragged, by decide +kernel, isDocument_decode wellFormed ascii⟩

/-- The number of records is right, so the document is refused for its first wrong row. -/
theorem decode_described_ragged : raggedDocument.IsText (Utf8.bytes (Ascii.decode ragged.text)) ∧
    decode (Ascii.decode ragged.text) = refuse (.dimensionMismatch "voxels per row" 2 3) := by
  have valid : raggedDocument.dimensions.Valid :=
    ⟨⟨by decide, by decide⟩, ⟨by decide, by decide⟩, ⟨by decide, by decide⟩, by decide⟩
  refine ⟨ragged_isText, ((decode_described ragged_isText).2.2.2 _).mpr ⟨_, ?_, rfl⟩⟩
  refine .row valid (by decide) (by decide) ⟨[], _, rfl, nofun, fun fits => ?_⟩ (by decide)
    ⟨[], [], rfl, nofun, by decide⟩
  exact absurd (fits.2 _ List.mem_cons_self) (by decide)

end Structured

end DenseMedium
