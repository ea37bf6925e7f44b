import DenseMedium.Proofs.Steps
import DenseMedium.Stream.Written

/-!
What memory collects.

* `grow_cases`: a buffer that has to hold more is large enough afterwards, or no allocation is as
  large as it asks for.
* `collect_cases`, `collect_of_short`, `length_of_collect`: so all bytes are collected, or the
  capacity overflows. Up to half of what one allocation may hold is always collected, because a
  buffer that is too small for it does not ask for more than twice as much. More than one allocation
  may hold is never collected.
* `Writing.collect_*`: the same for a writing that may fail by itself after its last write.
-/

namespace DenseMedium

namespace Memory

variable {room room' length needed : Nat} {pieces : List Bytes} {b : Bytes}

/-- As many bytes as memory always collects. -/
def assured : Nat := 4611686018427387904

theorem grow_cases (room needed : Nat) :
    (∃ room', grow room needed = .ok room' ∧ needed ≤ room' ∧
        (room ≤ Size.maxBytes → room' ≤ Size.maxBytes)) ∨
      grow room needed = .error .capacityOverflow ∧ assured < needed := by
  unfold grow
  by_cases held : needed ≤ room
  · rw [if_pos held]
    exact .inl ⟨room, rfl, held, id⟩
  · rw [if_neg held]
    by_cases fits : larger room needed ≤ Size.maxBytes
    · have enough : needed ≤ larger room needed :=
        Nat.le_trans (Nat.le_max_right _ _) (Nat.le_max_right _ _)
      rw [Size.reserve_eq_ok.mpr (by rwa [Nat.mul_one]), ok_bind]
      exact .inl ⟨_, rfl, enough, fun _ => fits⟩
    · -- A room below `needed` and too large when doubled leaves no other `needed`.
      have long : assured < needed := by
        change ¬ max 8 (max (2 * room) needed) ≤ 9223372036854775807 at fits
        change 4611686018427387904 < needed
        omega
      have overflows : Size.reserve (larger room needed) 1 = .error .capacityOverflow :=
        if_neg (by rwa [Nat.mul_one])
      rw [overflows, error_bind]
      exact .inr ⟨rfl, long⟩

/-- Extending a buffer goes through, with room for everything, or the capacity overflows. -/
theorem extend_cases (room length : Nat) (pieces : List Bytes) :
    (extend room length pieces = .ok () ∧ (length ≤ room → room ≤ Size.maxBytes →
        length + pieces.flatten.length ≤ Size.maxBytes)) ∨
      extend room length pieces = .error .capacityOverflow ∧
        assured < length + pieces.flatten.length := by
  induction pieces generalizing room length with
  | nil =>
    refine .inl ⟨rfl, fun held bounded => ?_⟩
    rw [List.flatten_nil, List.length_nil]
    omega
  | cons piece rest ih =>
    have total : length + (piece :: rest).flatten.length =
        length + piece.length + rest.flatten.length := by
      rw [List.flatten_cons, List.length_append, Nat.add_assoc]
    rw [total]
    unfold extend
    rcases grow_cases room (length + piece.length) with
      ⟨room', grown, held, bounded⟩ | ⟨overflows, long⟩
    · rw [grown, ok_bind]
      refine (ih room' (length + piece.length)).imp_left fun ⟨extended, fits⟩ => ⟨extended, ?_⟩
      intro _ room_le
      exact fits held (bounded room_le)
    · rw [overflows, error_bind]
      exact .inr ⟨rfl, by omega⟩

theorem collect_cases (pieces : List Bytes) :
    collect pieces = .ok pieces.flatten ∨ collect pieces = .error .capacityOverflow := by
  unfold collect
  refine (extend_cases 0 0 pieces).imp (fun ⟨extended, _⟩ => ?_) (fun ⟨overflows, _⟩ => ?_)
  · rw [extended]
    rfl
  · rw [overflows]
    rfl

theorem collect_of_short (short : pieces.flatten.length ≤ assured) :
    collect pieces = .ok pieces.flatten := by
  unfold collect
  rcases extend_cases 0 0 pieces with ⟨extended, -⟩ | ⟨-, long⟩
  · rw [extended]
    rfl
  · omega

/-- What has been collected is all bytes, and one allocation holds them. -/
theorem length_of_collect (h : collect pieces = .ok b) :
    b = pieces.flatten ∧ b.length ≤ Size.maxBytes := by
  unfold collect at h
  rcases extend_cases 0 0 pieces with ⟨extended, fits⟩ | ⟨overflows, -⟩
  · rw [extended] at h
    cases h
    have held := fits (Nat.le_refl 0) (Nat.zero_le _)
    rw [Nat.zero_add] at held
    exact ⟨rfl, held⟩
  · rw [overflows] at h
    cases h

end Memory

namespace Writing

variable {pieces : List Bytes} {x : Failure} {room : Nat}

@[simp] theorem collect_failed (x : Failure) : (failed x).collect = .error x := rfl

theorem collect_of_short {w : Writing} (short : w.pieces.flatten.length ≤ Memory.assured) :
    w.collect = w.ending >>= fun _ => .ok w.pieces.flatten := by
  unfold collect
  rw [Memory.collect_of_short short]
  rfl

theorem collect_cases (w : Writing) :
    w.collect = (w.ending >>= fun _ => .ok w.pieces.flatten) ∨
      w.collect = .error (.fault .capacityOverflow) := by
  unfold collect
  rcases Memory.collect_cases w.pieces with collected | overflows
  · rw [collected]
    exact .inl rfl
  · rw [overflows]
    exact .inr rfl

/-- A writing whose bytes have been collected has ended well. -/
theorem ending_of_collect {w : Writing} {b : Bytes} (h : w.collect = .ok b) :
    w.ending = .ok () ∧ b = w.pieces.flatten ∧ b.length ≤ Size.maxBytes := by
  unfold collect at h
  obtain ⟨c, collected, h⟩ := bind_eq_ok.mp h
  obtain ⟨_, ended, h⟩ := bind_eq_ok.mp h
  cases h
  exact ⟨ended, Memory.length_of_collect (lift_eq_ok.mp collected)⟩

end Writing

end DenseMedium
