import DenseMedium.Stream.Buffer
import DenseMedium.Stream.Written

/-!
What a sink takes, and what a buffer passes on.

* `deliver_eq`: a sink takes the bytes of all pieces up to its room, wherever the pieces are cut,
  and it has taken everything exactly when the room is enough.
* `taking_iff`: a sink that takes a piece in portions, however it cuts them, ends with the same.
* `cutAnywhere`: so writing ends with the front of the bytes that there is room for, and with an
  error exactly when that is not all of them.
* `Buffer.written_push`, `Buffer.written_ofPieces`: what a buffer has passed on, followed by what it
  holds back, is what has been written into it. Every write keeps this, in whichever way it goes.
* `Buffer.flatten_flush`: so a buffer that is flushed at the end has passed on everything.
-/

namespace DenseMedium

variable {room : Nat} {pieces : List Bytes}

theorem deliver_eq : ∀ (room : Nat) (pieces : List Bytes),
    deliver room pieces = ⟨pieces.flatten.take room, decide (pieces.flatten.length ≤ room)⟩
  | _, [] => by simp [deliver]
  | room, piece :: rest => by
      have ih := deliver_eq (room - piece.length) rest
      unfold deliver
      rw [List.flatten_cons, List.length_append]
      by_cases fits : piece.length ≤ room
      · have room_eq : rest.flatten.length ≤ room - piece.length ↔
            piece.length + rest.flatten.length ≤ room := by omega
        rw [if_pos fits, ih, List.take_append, List.take_of_length_le fits]
        simp only [room_eq]
      · have short : ¬ piece.length + rest.flatten.length ≤ room := by omega
        rw [if_neg fits, decide_eq_false short, List.take_append_of_le_length (by omega)]

/-- A sink with room enough takes everything. -/
theorem deliver_of_fits (fits : pieces.flatten.length ≤ room) :
    deliver room pieces = ⟨pieces.flatten, true⟩ := by
  rw [deliver_eq, List.take_of_length_le fits, decide_eq_true fits]

theorem Written.ofPieces_of_fits (fits : pieces.flatten.length ≤ room) :
    Written.ofPieces room pieces = ⟨pieces.flatten, .ok ()⟩ := by
  unfold ofPieces ofDelivery
  rw [deliver_of_fits fits]
  rfl

/-- A sink takes the front of a writing without failures of its own. -/
theorem Writing.into_of_ok (room : Nat) (pieces : List Bytes) :
    Writing.into room ⟨pieces, .ok ()⟩ = .ok (.ofPieces room pieces) := by
  unfold into Written.ofPieces Written.ofDelivery Delivery.result
  dsimp only
  cases (deliver room pieces).isComplete <;> rfl

/-- Only a writing that ends well ends well in a sink. -/
theorem Writing.ending_of_into {w : Writing} {b : Bytes} (h : w.into room = .ok ⟨b, .ok ()⟩) :
    w.ending = .ok () := by
  unfold into at h
  cases complete : (deliver room w.pieces).isComplete with
  | true =>
    cases ended : w.ending with
    | ok u => rfl
    | error x =>
      simp only [complete, ended] at h
      cases x <;> cases h
  | false =>
    simp only [complete, Written.ofDelivery, Delivery.result] at h
    cases h

@[simp] theorem Writing.into_failed_fault (room : Nat) (x : Fault) :
    (Writing.failed (.fault x)).into room = .error x := rfl

@[simp] theorem Writing.into_failed_refused (room : Nat) (e : GridError) :
    (Writing.failed (.refused e)).into room = .ok ⟨[], .error e⟩ := rfl

/-! ### Portions -/

/-- What a sink with room for `room` bytes may end with when it takes as much of a piece at a time
as it likes. What is left of the piece is offered again; a sink without room refuses it. -/
inductive Taking : Nat → List Bytes → Delivery → Prop where
  | done {room : Nat} : Taking room [] ⟨[], true⟩
  | next {room : Nat} {rest : List Bytes} {d : Delivery} :
      Taking room rest d → Taking room ([] :: rest) d
  | portion {room : Nat} {front back : Bytes} {rest : List Bytes} {d : Delivery} :
      front ≠ [] → front.length ≤ room → Taking (room - front.length) (back :: rest) d →
      Taking room ((front ++ back) :: rest) ⟨front ++ d.taken, d.isComplete⟩
  | full {piece : Bytes} {rest : List Bytes} :
      piece ≠ [] → Taking 0 (piece :: rest) ⟨[], false⟩

theorem Taking.eq_deliver {d : Delivery} (h : Taking room pieces d) : d = deliver room pieces := by
  induction h with
  | done => rfl
  | next _ ih => simpa [deliver_eq] using ih
  | @portion room front back rest d _ fits _ ih =>
    have room_eq : (back ++ rest.flatten).length ≤ room - front.length ↔
        (front ++ (back ++ rest.flatten)).length ≤ room := by
      simp only [List.length_append]
      omega
    rw [ih, deliver_eq, deliver_eq]
    simp only [List.flatten_cons, List.append_assoc, List.take_append,
      List.take_of_length_le fits, room_eq]
  | @full piece rest some_left =>
    have := List.length_pos_iff.mpr some_left
    have short : ¬ (piece ++ rest.flatten).length ≤ 0 := by
      rw [List.length_append]
      omega
    rw [deliver_eq, List.flatten_cons, decide_eq_false short, List.take_zero]

/-- A sink that takes whole pieces is one of them. -/
theorem taking_deliver (room : Nat) (pieces : List Bytes) :
    Taking room pieces (deliver room pieces) := by
  induction pieces generalizing room with
  | nil => exact .done
  | cons piece rest ih =>
    unfold deliver
    by_cases fits : piece.length ≤ room
    · rw [if_pos fits]
      by_cases empty : piece = []
      · subst empty
        exact .next (ih room)
      · have whole := Taking.portion empty fits (.next (ih (room - piece.length)))
        rwa [List.append_nil] at whole
    · rw [if_neg fits]
      rcases Nat.eq_zero_or_pos room with rfl | positive
      · exact .full (List.ne_nil_of_length_pos (by omega))
      · -- What there is room for is taken first, and the rest of the piece refused.
        have length_front : (piece.take room).length = room := List.length_take_of_le (by omega)
        have front_ne : piece.take room ≠ [] := List.ne_nil_of_length_pos (by omega)
        have back_ne : piece.drop room ≠ [] :=
          List.ne_nil_of_length_pos (by rw [List.length_drop]; omega)
        have left_over : Taking (room - (piece.take room).length) (piece.drop room :: rest)
            ⟨[], false⟩ := by
          rw [length_front, Nat.sub_self]
          exact .full back_ne
        have cut := Taking.portion front_ne (Nat.le_of_eq length_front) left_over
        rwa [List.take_append_drop, List.append_nil] at cut

theorem taking_iff {d : Delivery} : Taking room pieces d ↔ d = deliver room pieces := by
  constructor
  · exact Taking.eq_deliver
  · rintro rfl
    exact taking_deliver room pieces

/-! ### Cut writes -/

/-- Writing `b` into a sink with room for `room` bytes that then fails: the sink has the front of
`b` and nothing else, and the writer is told when that is not all of it. -/
structure Written.CutAt (room : Nat) (b : Bytes) (w : Written) : Prop where
  taken_eq : w.taken = b.take room
  result_eq_ok : w.result = .ok () ↔ b.length ≤ room
  result_eq_error : room < b.length → ∃ e, w.result = .error (.io e)

theorem Written.cutAt_ofPieces (room : Nat) (pieces : List Bytes) :
    (ofPieces room pieces).CutAt room pieces.flatten := by
  unfold ofPieces ofDelivery
  rw [deliver_eq]
  generalize pieces.flatten = b
  by_cases fits : b.length ≤ room
  · rw [decide_eq_true fits]
    refine ⟨rfl, ?_, ?_⟩
    · exact iff_of_true rfl fits
    · intro short
      omega
  · rw [decide_eq_false fits]
    refine ⟨rfl, ?_, ?_⟩
    · exact iff_of_false nofun fits
    · intro _
      exact ⟨sinkFull, rfl⟩

/-- Writing `pieces` can be cut anywhere: with any room, and in whichever portions the sink takes
them, it ends in the same way, with the front of `b`. -/
structure CutAnywhere (pieces : List Bytes) (b : Bytes) (write : Nat → Written) : Prop where
  cutAt (room : Nat) : (write room).CutAt room b
  eq_write {room : Nat} {d : Delivery} : Taking room pieces d → .ofDelivery d = write room

theorem cutAnywhere (pieces : List Bytes) :
    CutAnywhere pieces pieces.flatten (Written.ofPieces · pieces) where
  cutAt room := Written.cutAt_ofPieces room pieces
  eq_write h := congrArg Written.ofDelivery (taking_iff.mp h)

/-! ### Buffers -/

namespace Buffer

variable {b : Buffer} {piece : Bytes}

/-- What has been written into a buffer: what it has passed on, and what it holds back. -/
def written (b : Buffer) : Bytes := b.passed.flatten ++ b.bytes

theorem bytes_of_length (h : b.length = 0) : b.bytes = [] :=
  List.length_eq_zero_iff.mp (b.length_eq ▸ h)

theorem written_hold (b : Buffer) (piece : Bytes) :
    (b.hold piece).written = b.written ++ piece := by
  simp [written, hold, bytes]

/-- A piece may only overtake what is held back when that is nothing. -/
theorem written_pass (h : b.bytes = []) (piece : Bytes) :
    (b.pass piece).written = b.written ++ piece := by
  have same : (b.pass piece).bytes = [] := h
  unfold written
  rw [same, h]
  simp [pass]

theorem flush_spec (b : Buffer) : b.flush.written = b.written ∧ b.flush.bytes = [] := by
  unfold flush
  by_cases h : b.length = 0
  · rw [if_pos h]
    exact ⟨rfl, bytes_of_length h⟩
  · rw [if_neg h]
    have bytes : (⟨b.passed ++ [b.bytes], [], 0, rfl⟩ : Buffer).bytes = [] := rfl
    refine ⟨?_, bytes⟩
    unfold written
    rw [bytes]
    simp

theorem flatten_flush (b : Buffer) : b.flush.passed.flatten = b.written := by
  obtain ⟨same, none⟩ := b.flush_spec
  rw [← same, written, none, List.append_nil]

/-- A write adds its piece at the end. -/
theorem written_push (b : Buffer) (piece : Bytes) :
    (b.push piece).written = b.written ++ piece := by
  unfold push
  by_cases fits : piece.length < capacity - b.length
  · rw [if_pos fits]
    exact b.written_hold piece
  · rw [if_neg fits]
    by_cases overfull : capacity - b.length < piece.length
    · obtain ⟨same, none⟩ := b.flush_spec
      rw [if_pos overfull, ← same]
      split
      · exact written_pass none piece
      · exact b.flush.written_hold piece
    · rw [if_neg overfull]
      split
      · -- The piece fills the whole buffer and fits the space left, so nothing is held back.
        rename_i long
        have positive : 0 < capacity := by decide
        exact written_pass (bytes_of_length (by omega)) piece
      · exact b.written_hold piece

/-- Nothing is lost or moved between the writes. -/
theorem written_ofPieces (pieces : List Bytes) : (ofPieces pieces).written = pieces.flatten := by
  have run (b : Buffer) : (pieces.foldl push b).written = b.written ++ pieces.flatten := by
    induction pieces generalizing b with
    | nil => simp
    | cons piece rest ih =>
      rw [List.foldl_cons, ih, written_push, List.flatten_cons, List.append_assoc]
  exact run empty

end Buffer

end DenseMedium
