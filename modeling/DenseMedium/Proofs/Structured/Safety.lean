import DenseMedium.Proofs.Binary.RoundTrip
import DenseMedium.Proofs.Grid.Contents
import DenseMedium.Proofs.Json.Costs
import DenseMedium.Proofs.Json.Endings
import DenseMedium.Proofs.Majorant.Refusals
import DenseMedium.Proofs.Stream.Sources
import DenseMedium.Proofs.Structured.Acceptance
import DenseMedium.Proofs.Structured.Encoding

/-!
Decoded grids are safe to use.

* `Document.read_unblamed`: a text is never unreadable because of its source.
* `Document.length_records_le`: a document has no more records than its text has room for.
* `decode_cases`: a text is refused as a document, refused for its nesting, or decodes to a grid
  with a value for every twelve bytes at most.
* `read_eq`, `read_cases`: a source is refused or decodes to such a grid.
* `decode_of_not_isText`: a text that describes no document cannot be read.
* `decode_safe`: on a decoded grid no operation meets a fault. It can be written in every layout as far
  as memory goes, and encoded, every point of it can be asked for, and a block size is either taken or
  refused.
-/

namespace DenseMedium

namespace Structured

open Json

/-! ### Reading -/

section Reading

theorem settled_components : Settled components := settled_triple settled_double

theorem settled_endOfRecord : Settled endOfRecord := by
  intro s
  unfold endOfRecord
  split
  · rename_i failed
    exact (nextItem_unblamed _ s).error failed
  · exact settled_closeList s
  · split
    · rename_i failed
      exact (settled_skipValue _).error failed
    · exact unblamed_invalidLength _ _

theorem settled_record : Settled record :=
  settled_list ((settled_element settled_components 0 _).bind fun _ =>
    (settled_element settled_components 1 _).bind fun _ =>
      settled_orEnd (settled_components.bind fun _ => settled_endOfRecord.map _))

theorem settled_planes : Settled planes :=
  settled_sequence (settled_sequence (settled_sequence settled_record))

/-- A record costs its two triples and its brackets. -/
theorem costs_record : Costs record fun _ => 12 := by
  have triple (count : Nat) :=
    costs_element (costs_triple Components.mk double) count recordName
  have body : Costs recordBody fun _ => 11 :=
    (triple 0).bind fun sigmaA => (triple 1).bind fun sigmaS => costs_one (recordTail sigmaA sigmaS)
  exact costs_list body

theorem costs_row : Costs (sequence record) fun row => 12 * row.length :=
  costs_sequence costs_record rfl fun v vs => by
    rw [List.length_cons]
    omega

theorem costs_plane : Costs (sequence (sequence record)) fun plane => 12 * plane.flatten.length :=
  costs_sequence costs_row rfl fun v vs => by
    rw [List.flatten_cons, List.length_append]
    omega

theorem costs_planes : Costs planes fun ps => 12 * ps.flatten.flatten.length :=
  costs_sequence costs_plane rfl fun v vs => by
    rw [List.flatten_cons, List.flatten_append, List.length_append]
    omega

end Reading

namespace Document

variable {e : Ending} {b : Bytes} {d : Document}

theorem settledFields_field : SettledFields Draft.field where
  refused draft key := by
    unfold Draft.field
    repeat' split
    all_goals first | exact once_unblamed | exact unblamed_ok _
  reads {draft key reader} found := by
    unfold Draft.field at found
    repeat' split at found
    · exact settled_of_once settled_unsignedWord found
    · exact settled_of_once settled_unsignedWord found
    · exact settled_of_once settled_unsignedWord found
    · exact settled_of_once settled_planes found
    · cases found
      exact settled_skipValue.map _

theorem finish_unblamed (draft : Draft) : Unblamed draft.finish :=
  (required_unblamed _ _).bind fun _ => (required_unblamed _ _).bind fun _ =>
    (required_unblamed _ _).bind fun _ => (required_unblamed _ _).bind fun _ => unblamed_ok _

theorem settled_inOrder : Settled inOrder :=
  (settled_element settled_unsignedWord 0 _).bind fun _ =>
    (settled_element settled_unsignedWord 1 _).bind fun _ =>
      (settled_element settled_unsignedWord 2 _).bind fun _ =>
        (settled_element settled_planes 3 _).bind fun _ => settled_closeList.map _

/-- A complete text is never unreadable because of its source. -/
theorem read_unblamed (b : Bytes) : Unblamed (read .complete b) :=
  document_unblamed (settled_struct settled_inOrder
    (settled_objectBody settledFields_field finish_unblamed)) b

/-- What a draft is worth: twelve bytes for each record. -/
def Draft.worth (draft : Draft) : Nat :=
  match draft.planes with
  | some ps => 12 * ps.flatten.flatten.length
  | none => 0

theorem costs_field {draft : Draft} {key : String} {reader : Reader Draft}
    (found : draft.field key = .ok reader) :
    Costs reader fun last => last.worth - draft.worth := by
  have unchanged {last : Draft} (same : last.planes = draft.planes) :
      last.worth - draft.worth ≤ 0 := by
    unfold Draft.worth
    rw [same, Nat.sub_self]
  unfold Draft.field at found
  repeat' split at found
  · exact costs_of_once found (costs_zero _) fun _ _ => unchanged rfl
  · exact costs_of_once found (costs_zero _) fun _ _ => unchanged rfl
  · exact costs_of_once found (costs_zero _) fun _ _ => unchanged rfl
  · exact costs_of_once found costs_planes fun _ _ => Nat.sub_le _ _
  · cases found
    exact Costs.map _ ((costs_zero _).mono fun _ => unchanged rfl)

theorem worth_of_finish {draft : Draft} (h : draft.finish = .ok d) :
    draft.worth = 12 * d.records.length := by
  unfold Draft.finish at h
  obtain ⟨_, -, h⟩ := bind_eq_ok.mp h
  obtain ⟨_, -, h⟩ := bind_eq_ok.mp h
  obtain ⟨_, -, h⟩ := bind_eq_ok.mp h
  obtain ⟨ps, hp, h⟩ := bind_eq_ok.mp h
  cases h
  unfold Draft.worth
  cases planes : draft.planes with
  | none =>
    rw [planes] at hp
    contradiction
  | some qs =>
    rw [planes] at hp
    cases hp
    rfl

theorem costs_inOrder : Costs inOrder fun d => 12 * d.records.length :=
  (costs_element (costs_zero _) 0 _).bind fun width =>
    (costs_element (costs_zero _) 1 _).bind fun height =>
      (costs_element (costs_zero _) 2 _).bind fun depth =>
        (costs_element costs_planes 3 _).bind fun planes =>
          costs_last closeList (⟨width, height, depth, planes⟩ : Document) _

/-- A text has twelve bytes or more for each record. -/
theorem length_records_le (h : read e b = .ok d) : 12 * d.records.length ≤ b.length :=
  document_costs (costs_struct costs_inOrder
    (costs_objectBody costs_field rfl worth_of_finish)) h

/-- A document is refused as a document or for its nesting, or it makes a grid with a value for
every twelve bytes at most of the text that it was read from. -/
theorem toGrid_cases (h : read e b = .ok d) : (∃ cause, d.toGrid = refuse (.schema cause)) ∨
    (∃ what expected actual, d.toGrid = refuse (.dimensionMismatch what expected actual)) ∨
    ∃ g, d.toGrid = .ok g ∧ Sound g ∧ 12 * g.values.size ≤ b.length := by
  cases made : d.toGrid with
  | ok g =>
    refine .inr (.inr ⟨g, rfl, sound_of_toGrid made, ?_⟩)
    obtain ⟨-, -, -, rfl⟩ := toGrid_eq_ok.mp made
    rw [List.size_toArray, List.length_map]
    exact length_records_le h
  | error x =>
    obtain ⟨e, defect, rfl⟩ := toGrid_eq_error.mp made
    cases defect with
    | dimensions | component => exact .inl ⟨_, rfl⟩
    | records | planes | rows | row => exact .inr (.inl ⟨_, _, _, rfl⟩)

end Document

/-! ### Decoding -/

/-- A source is decoded by its bytes and its ending, however it cuts the bytes. -/
theorem read_eq (s : Source) : read s = decodeBytes s.ending s.bytes := by
  unfold read
  rw [Source.received_eq Source.capacity_pos]

/-- Decoding a source ends with a refusal or a grid. -/
theorem read_cases (s : Source) : (∃ x, read s = refuse x) ∨
    ∃ g, read s = .ok g ∧ Sound g ∧ 12 * g.values.size ≤ s.bytes.length := by
  rw [read_eq]
  unfold decodeBytes
  cases h : Document.read s.ending s.bytes with
  | error x => exact .inl ⟨_, rfl⟩
  | ok d =>
    rcases Document.toGrid_cases h with ⟨_, refused⟩ | ⟨_, _, _, mismatch⟩ | made
    · exact .inl ⟨_, refused⟩
    · exact .inl ⟨_, mismatch⟩
    · exact .inr made

/-- A source that breaks is not decoded. -/
theorem read_of_broken {s : Source} {cause : StreamError} {g : VoxelGrid}
    (h : s.ending = .broken cause) : read s ≠ .ok g := by
  rw [read_eq, h]
  unfold decodeBytes
  intro made
  split at made
  · rename_i read
    exact document_of_broken read
  · cases made

/-- What decoding a text can come to. -/
theorem decode_cases (text : String) : (∃ cause, decode text = refuse (.schema cause)) ∨
    (∃ what expected actual, decode text = refuse (.dimensionMismatch what expected actual)) ∨
    ∃ g, decode text = .ok g ∧ Sound g ∧ 12 * g.values.size ≤ (Utf8.bytes text).length := by
  unfold decode decodeBytes
  cases h : Document.read .complete (Utf8.bytes text) with
  | ok d => exact Document.toGrid_cases h
  | error x =>
    cases x with
    | source cause => exact absurd h (Document.read_unblamed _ cause)
    | _ => exact .inl ⟨_, rfl⟩

/-- A text of no document cannot be read. -/
theorem decode_of_not_isText {text : String} (h : ∀ d : Document, ¬ d.IsText (Utf8.bytes text)) :
    ∃ x, decode text = refuse (.schema (.unreadable x)) := by
  unfold decode decodeBytes
  cases reading : Document.read .complete (Utf8.bytes text) with
  | ok d => exact absurd (Document.read_eq_ok.mp reading) (h d)
  | error x =>
    cases x with
    | source cause => exact absurd reading (Document.read_unblamed _ cause)
    | _ => exact ⟨_, rfl⟩

/-- A text is refused as a document or for its nesting, or it decodes to a full grid at the origin
with finite coefficients, on which no operation meets a fault other than that memory cannot hold what
it makes. -/
theorem decode_safe (text : String) (short : (Utf8.bytes text).length < 2 ^ 63) :
    (∃ cause, decode text = refuse (.schema cause)) ∨
    (∃ what expected actual, decode text = refuse (.dimensionMismatch what expected actual)) ∨
    ∃ g, decode text = .ok g ∧
      (g.extent.minimum = Point.zero ∧ g.extent.Positive ∧
        g.values.size = g.extent.width * g.extent.height * g.extent.depth ∧
        ∀ v ∈ g.values, v.isFinite = true) ∧
      (∀ l, ∃ text', Encodes l g (Utf8.bytes text')) ∧
      (∀ p, (∃ v, g.get p = .ok v) ∨ g.get p = refuse (.outOfBounds p g.dimensions)) ∧
      (16 + 48 * g.values.size ≤ 2 ^ 63 - 1 → ∃ b, Binary.encode g = .ok b) ∧
      ∀ s, (∃ sv, Majorant.build g s = .ok sv) ∨
        ∃ axis, Majorant.build g s =
          refuse (.indivisibleDimension axis (g.dimensions.along axis) s) := by
  rcases decode_cases text with refused | mismatch | ⟨g, decoded, sound, size⟩
  · exact .inl refused
  · exact .inr (.inl mismatch)
  · have full := sound.complete.size_eq
    have fits : Cell.width Rgb * g.extent.volume ≤ Size.maxBytes := by
      rw [← full]
      change 12 * _ ≤ 9223372036854775807
      omega
    refine .inr (.inr ⟨g, decoded, ⟨sound.origin, sound.complete.positive, ?_, sound.finite⟩, ?_⟩)
    · rw [full, Extent.volume_eq]
    refine ⟨fun l => ?_, sound.complete.full.get_total, fun room => ?_,
      Majorant.build_total sound.complete sound.origin fits⟩
    · obtain ⟨text', bytes⟩ := exists_text sound.finite l
      exact ⟨text', bytes ▸ (hasDocument_of_sound sound).encodes l⟩
    · exact ⟨_, Binary.encode_eq_ok room⟩

/-- Two grey voxels, in a document that lists its fields. -/
def plain : Value :=
  .list [digitValue 2, digitValue 1, digitValue 1,
    .list [.list [.list [greyRecord 1, greyRecord 2]]]]

/-- The document of `plain`. -/
def plainDocument : Document := ⟨2, 1, 1, [[[grey 1, grey 2]]]⟩

theorem plain_isAscii : Ascii.IsAscii plain.text := by decide +kernel

theorem plain_isDocument : plain.IsDocument (Utf8.bytes (Ascii.decode plain.text)) := by
  refine isDocument_decode ?_ plain_isAscii
  simp [plain, greyRecord, Value.WellFormed, Value.WellFormedItems, digitValue_wellFormed]

theorem plain_isText : plainDocument.IsText (Utf8.bytes (Ascii.decode plain.text)) :=
  ⟨plain, rfl, plain_isDocument⟩

theorem plain_decodes : ∃ g, decode (Ascii.decode plain.text) = .ok g := by
  rw [decode_eq_toGrid plain_isText, Document.exists_toGrid_eq_ok]
  have valid : plainDocument.dimensions.Valid :=
    ⟨⟨by decide, by decide⟩, ⟨by decide, by decide⟩, ⟨by decide, by decide⟩, by decide⟩
  refine ⟨valid, ?_, ?_⟩
  · unfold Document.Nested
    decide
  · decide +kernel

/-- A text that is accepted. -/
theorem decode_safe_plain : (Utf8.bytes (Ascii.decode plain.text)).length < 2 ^ 63 ∧
    ∃ g, decode (Ascii.decode plain.text) = .ok g ∧
      (∀ l, ∃ text', Encodes l g (Utf8.bytes text')) ∧
      ∀ s, (∃ sv, Majorant.build g s = .ok sv) ∨
        ∃ axis, Majorant.build g s =
          refuse (.indivisibleDimension axis (g.dimensions.along axis) s) := by
  have short : (Utf8.bytes (Ascii.decode plain.text)).length < 2 ^ 63 := by
    rw [Ascii.bytes_decode plain_isAscii]
    decide +kernel
  obtain ⟨g, decoded⟩ := plain_decodes
  refine ⟨short, ?_⟩
  rcases decode_safe _ short with ⟨_, refused⟩ | ⟨_, _, _, mismatch⟩ |
    ⟨g', decoded', -, writes, -, -, builds⟩
  · rw [decoded] at refused
    contradiction
  · rw [decoded] at mismatch
    contradiction
  · exact ⟨g', decoded', writes, builds⟩

/-- The grid of that text is not written at an indentation that memory cannot hold. -/
theorem decode_safe_overwide : ∃ g, decode (Ascii.decode plain.text) = .ok g ∧
    ¬ ∃ text', encode .overwide g = .ok (Utf8.bytes text') := by
  obtain ⟨g, decoded⟩ := plain_decodes
  refine ⟨g, decoded, ?_⟩
  rintro ⟨text', made⟩
  exact (hasDocument_of_sound (sound_of_decodeBytes decoded)).encode_overwide _ made

end Structured

end DenseMedium
