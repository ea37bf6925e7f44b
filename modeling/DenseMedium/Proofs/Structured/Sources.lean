import DenseMedium.Binary.Codec
import DenseMedium.Proofs.Json.Breaks
import DenseMedium.Proofs.Structured.Safety

/-!
Decoding what a source delivers.

Both forms of grids can be decoded from bytes at hand or from a source. A source may cut its bytes
anywhere, within a number or a word, and it may break.

* `Document.read_alike`: over a source that breaks, a document is refused because of the break or
  for what is wrong with the bytes before it.
* `read_of_delivery`: a source that does not break decodes as its bytes do. A source that breaks
  decodes to nothing.
-/

namespace DenseMedium

namespace Structured

open Json

/-! ### Documents over broken sources -/

theorem steady_components : Steady components := steady_triple steady_numeric

theorem steady_endOfRecord : Steady endOfRecord := by
  intro cause s
  unfold endOfRecord
  refine (nextItem_alike false s).elim (.blamed _) ?_
  split
  · exact .same _
  · exact steady_closeList cause s
  · rename_i start _
    exact (steady_skipValue cause start.1).elim (.blamed _) (.same _)

theorem steady_record : Steady record :=
  steady_list ((steady_element steady_components 0 _).bind fun _ =>
    (steady_element steady_components 1 _).bind fun _ =>
      steady_orEnd (steady_components.bind fun _ => steady_endOfRecord.map _))

theorem steady_planes : Steady planes :=
  steady_sequence (steady_sequence (steady_sequence steady_record))

namespace Document

theorem steadyFields_field : SteadyFields Draft.field := by
  intro draft key reader found
  unfold Draft.field at found
  repeat' split at found
  · exact steady_of_once steady_numeric found
  · exact steady_of_once steady_numeric found
  · exact steady_of_once steady_numeric found
  · exact steady_of_once steady_planes found
  · cases found
    exact steady_skipValue.map _

theorem steady_inOrder : Steady inOrder :=
  (steady_element steady_numeric 0 _).bind fun _ =>
    (steady_element steady_numeric 1 _).bind fun _ =>
      (steady_element steady_numeric 2 _).bind fun _ =>
        (steady_element steady_planes 3 _).bind fun _ => steady_closeList.map _

/-- A document over a broken source is refused because of the break or as its bytes are. -/
theorem read_alike (cause : StreamError) (b : Bytes) :
    Alike cause (read (.broken cause) b) (read .complete b) :=
  document_alike (steady_struct steady_inOrder (steady_objectBody steadyFields_field)) b

end Document

/-- What a document error over complete bytes is reported as. -/
theorem decodeBytes_of_error {b : Bytes} {x : ReadError}
    (h : Document.read .complete b = .error x) :
    decodeBytes .complete b = refuse (.schema (.unreadable x)) := by
  unfold decodeBytes
  rw [h]
  cases x with
  | source cause => exact absurd h (Document.read_unblamed b cause)
  | _ => rfl

/-- Bytes before a break are refused because of the break, or for what is wrong with them. -/
theorem decodeBytes_of_broken (cause : StreamError) (b : Bytes) :
    decodeBytes (.broken cause) b = refuse (.io cause) ∨
      ∃ x, decodeBytes (.broken cause) b = refuse (.schema x) ∧
        decodeBytes .complete b = refuse (.schema x) := by
  rcases Document.read_alike cause b with blamed | same
  · left
    unfold decodeBytes
    rw [blamed]
    rfl
  · right
    cases complete : Document.read .complete b with
    | ok d =>
      rw [complete] at same
      exact absurd same document_of_broken
    | error x =>
      refine ⟨_, ?_, decodeBytes_of_error complete⟩
      rw [← decodeBytes_of_error complete]
      unfold decodeBytes
      rw [same, complete]

/-! ### Sources -/

/-- **What a source delivers decides.** A source that delivers its bytes to the end is decoded as the
bytes at hand are, in either form, into whatever portions it cuts them. A source that breaks never
gives a grid. The binary form is refused because of the break; a document is refused because of the
break, or for what is wrong with the bytes before it, as the text of these bytes is. -/
theorem read_of_delivery {s : Source} {b : Bytes} (delivers : s.bytes = b) :
    (s.ending = .complete →
      (∀ (α : Type) [Record α] [Cell α], Binary.read (α := α) s = Binary.decode b) ∧
      ∀ text, Utf8.bytes text = b → read s = decode text) ∧
    ∀ cause, s.ending = .broken cause →
      (∀ (α : Type) [Record α] [Cell α], Binary.read (α := α) s = refuse (.io cause)) ∧
      (read s = refuse (.io cause) ∨ ∃ x, read s = refuse (.schema x) ∧
        ∀ text, Utf8.bytes text = b → decode text = refuse (.schema x)) := by
  subst delivers
  refine ⟨?_, ?_⟩
  · intro complete
    refine ⟨?_, ?_⟩
    · intro α _ _
      unfold Binary.read
      rw [Source.readToEnd_of_complete complete]
    · intro text bytes
      rw [read_eq, complete, ← bytes]
      rfl
  · intro cause broken
    refine ⟨?_, ?_⟩
    · intro α _ _
      unfold Binary.read
      rw [Source.readToEnd_of_broken broken]
    · rw [read_eq, broken]
      rcases decodeBytes_of_broken cause s.bytes with blamed | ⟨x, refused, complete⟩
      · exact .inl blamed
      · refine .inr ⟨x, refused, ?_⟩
        intro text bytes
        rw [← complete, ← bytes]
        rfl

/-- A document in portions of three bytes. Read to its end it gives a grid, and if the source breaks
behind its last byte it gives none. -/
theorem read_of_delivery_plain :
    let text := Ascii.decode plain.text
    let whole := Source.ofBytes (Utf8.bytes text) 3 .complete
    let cut := Source.ofBytes (Utf8.bytes text) 3 (.broken (.stopped "cut"))
    whole.bytes = Utf8.bytes text ∧ cut.bytes = Utf8.bytes text ∧
      (∃ g, decode text = .ok g ∧ read whole = .ok g) ∧
      Binary.read (α := Voxel) cut = refuse (.io (.stopped "cut")) ∧
      read cut = refuse (.io (.stopped "cut")) := by
  intro text whole cut
  obtain ⟨g, decoded⟩ := plain_decodes
  have delivers : whole.bytes = Utf8.bytes text := Source.bytes_ofBytes _ _ _
  have delivers' : cut.bytes = Utf8.bytes text := Source.bytes_ofBytes _ _ _
  obtain ⟨binary, document⟩ := (read_of_delivery delivers').2 _ rfl
  refine ⟨delivers, delivers', ⟨g, decoded, ?_⟩, binary Voxel, ?_⟩
  · rw [((read_of_delivery delivers).1 rfl).2 text rfl]
    exact decoded
  · rcases document with blamed | ⟨x, -, refused⟩
    · exact blamed
    · cases decoded.symm.trans (refused text rfl)

end Structured

end DenseMedium
