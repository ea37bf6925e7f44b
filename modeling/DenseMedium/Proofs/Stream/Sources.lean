import DenseMedium.Stream.Source

/-!
What reads deliver.

* `append_of_readInto`, `empty_of_readInto`, `empty_of_readInto_error`: a read takes its answer from
  the front of what is left. It answers without bytes, or fails, only when nothing is left.
* `received_eq`: so reads in succession deliver all bytes of a source and end as it ends, into
  whatever portions the source cuts the bytes and however small the buffer is.
* `bytes_ofBytes`: a source that hands out a number of bytes at a time hands out all of them.
-/

namespace DenseMedium

theorem flatten_runs {α : Type} (n : Nat) (xs : List α) : (runs n xs).flatten = xs := by
  fun_induction runs n xs with
  | case1 => rfl
  | case2 x rest ih => rw [List.flatten_cons, ih, List.cons_append, List.take_append_drop]

namespace Source

variable {space : Nat} {ending : Ending} {portions later : List Bytes}

/-- A read into a buffer with space answers without bytes only at the end of the data. -/
theorem empty_of_readInto (room : 0 < space)
    (h : readInto space ending portions = .ok ([], later)) :
    portions.flatten = [] ∧ ending = .complete := by
  fun_induction readInto space ending portions with
  | case1 ends => exact ⟨rfl, ends⟩
  | case2 => cases h
  | case3 _ ih => exact ih h
  | case4 portion _ full =>
    cases portion with
    | nil => exact absurd rfl full
    | cons b r =>
      have answer := congrArg Prod.fst (Except.ok.inj h)
      simp [List.take_eq_nil_iff, Nat.ne_of_gt room] at answer

/-- A read fails only where the source breaks. -/
theorem empty_of_readInto_error {e : StreamError}
    (h : readInto space ending portions = .error e) :
    portions.flatten = [] ∧ ending = .broken e := by
  fun_induction readInto space ending portions with
  | case1 => cases h
  | case2 _ ends =>
    cases h
    exact ⟨rfl, ends⟩
  | case3 _ ih => exact ih h
  | case4 => cases h

/-- What reads have delivered and what is left of the source stay the same bytes together. -/
theorem reads_eq (room : 0 < space) (ending : Ending) (answers portions : List Bytes) :
    (reads space ending answers portions).1.reverse.flatten =
        answers.reverse.flatten ++ portions.flatten ∧
      (reads space ending answers portions).2 = ending := by
  fun_induction reads space ending answers portions with
  | case1 _ _ _ failed =>
    obtain ⟨nothing, ends⟩ := empty_of_readInto_error failed
    simp [nothing, ends]
  | case2 _ _ _ last =>
    obtain ⟨nothing, ends⟩ := empty_of_readInto room last
    simp [nothing, ends]
  | case3 _ _ _ _ _ answer ih =>
    rw [← append_of_readInto answer]
    simpa using ih

/-- Reads deliver all bytes of a source, and end as the source does. -/
theorem received_eq (room : 0 < space) (s : Source) : s.received space = (s.bytes, s.ending) := by
  obtain ⟨all, ends⟩ := reads_eq room s.ending [] s.portions
  unfold received bytes
  rw [Prod.ext_iff]
  exact ⟨by simpa using all, ends⟩

theorem capacity_pos : 0 < Buffer.capacity := by decide

theorem readToEnd_of_complete {s : Source} (h : s.ending = .complete) :
    s.readToEnd = .ok s.bytes := by
  unfold readToEnd
  rw [received_eq capacity_pos, h]

theorem readToEnd_of_broken {s : Source} {cause : StreamError} (h : s.ending = .broken cause) :
    s.readToEnd = .error cause := by
  unfold readToEnd
  rw [received_eq capacity_pos, h]

theorem bytes_ofBytes (b : Bytes) (size : Nat) (ending : Ending) :
    (ofBytes b size ending).bytes = b := flatten_runs _ _

end Source

end DenseMedium
