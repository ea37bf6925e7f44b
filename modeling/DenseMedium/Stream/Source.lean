import DenseMedium.Runs
import DenseMedium.Stream.Buffer
import DenseMedium.Stream.Error

/-!
Readers that hand out bytes in portions and may break.

A source is the list of its portions and what follows the last of them: the end of the data, or a
failure. A read takes from one portion as much as the buffer has space for, and answers without
bytes only at the end of the data. What a source delivers is found out by one read after the other
(`received`). Readers that need everything see the failure; a reader that looks at the bytes one by
one meets it only if it gets that far.
-/

namespace DenseMedium

/-- What follows the last byte of a source. -/
inductive Ending where
  | complete
  | broken (e : StreamError)
  deriving DecidableEq, Repr

structure Source where
  portions : List Bytes
  ending : Ending
  deriving DecidableEq, Repr

namespace Source

/-- A source that returns at most `size` bytes a read, and at least one. -/
def ofBytes (b : Bytes) (size : Nat) (ending : Ending) : Source := ⟨runs (size - 1) b, ending⟩

/-- All bytes that the source hands out. -/
def bytes (s : Source) : Bytes := s.portions.flatten

/-! ### Reads -/

/-- One read into a buffer with space for `space` bytes, and the portions that are left after it.
Portions without bytes are passed over. -/
def readInto (space : Nat) (ending : Ending) : List Bytes → Except StreamError (Bytes × List Bytes)
  | [] =>
      match ending with
      | .complete => .ok ([], [])
      | .broken e => .error e
  | [] :: later => readInto space ending later
  | portion :: later => .ok (portion.take space, portion.drop space :: later)

/-- A read takes its answer from the front of what is left. -/
theorem append_of_readInto {space : Nat} {ending : Ending} {portions later : List Bytes}
    {answer : Bytes} (h : readInto space ending portions = .ok (answer, later)) :
    answer ++ later.flatten = portions.flatten := by
  fun_induction readInto space ending portions with
  | case1 =>
    cases h
    rfl
  | case2 => cases h
  | case3 _ ih => exact ih h
  | case4 =>
    cases h
    rw [List.flatten_cons, ← List.append_assoc, List.take_append_drop, List.flatten_cons]

/-- The answers of one read after the other, the last one first, and how they end. -/
def reads (space : Nat) (ending : Ending) (answers : List Bytes) (portions : List Bytes) :
    List Bytes × Ending :=
  match _ : readInto space ending portions with
  | .error e => (answers, .broken e)
  | .ok ([], _) => (answers, .complete)
  | .ok (b :: r, later) => reads space ending ((b :: r) :: answers) later
termination_by portions.flatten.length
decreasing_by
  rw [← append_of_readInto ‹readInto space ending portions = _›]
  simp only [List.cons_append, List.length_cons, List.length_append]
  omega

/-- The bytes that reads into a buffer with space for `space` bytes deliver, and how they end. -/
def received (space : Nat) (s : Source) : Bytes × Ending :=
  let (answers, ending) := reads space s.ending [] s.portions
  (answers.reverse.flatten, ending)

/-- Everything up to the end of the data. -/
def readToEnd (s : Source) : Except StreamError Bytes :=
  match s.received Buffer.capacity with
  | (b, .complete) => .ok b
  | (_, .broken e) => .error e

end Source

end DenseMedium
