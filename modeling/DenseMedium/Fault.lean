/-!
Faults: the ways a machine-sized step can have no value.

Coordinates are 32-bit signed, sizes are 64-bit unsigned, and no step wraps or saturates on its
own. A step whose mathematical result does not fit stops the whole operation with a `Fault` that
names the step; `Checked` is the type of operations that can stop in this way and in no other.
Within one operation the first step that has no value decides the fault.
-/

namespace DenseMedium

inductive Fault where
  | addOverflow
  | subOverflow
  | mulOverflow
  | divOverflow
  | remOverflow
  | divByZero
  | indexOutOfBounds (length index : Nat)
  /-- An allocation of more than `2 ^ 63 - 1` bytes. -/
  | capacityOverflow
  /-- A list cut into pieces of no elements while it is written. -/
  | emptyPiece
  /-- A plane of blocks that holds no block. -/
  | emptySlice
  deriving DecidableEq, Repr

def Fault.message : Fault → String
  | .addOverflow => "attempt to add with overflow"
  | .subOverflow => "attempt to subtract with overflow"
  | .mulOverflow => "attempt to multiply with overflow"
  | .divOverflow => "attempt to divide with overflow"
  | .remOverflow => "attempt to calculate the remainder with overflow"
  | .divByZero => "attempt to divide by zero"
  | .indexOutOfBounds length index =>
      s!"index out of bounds: the len is {length} but the index is {index}"
  | .capacityOverflow => "capacity overflow"
  | .emptyPiece => "chunk size must be non-zero"
  | .emptySlice => "chunk_size must not be zero"

/-- A result, or the fault of the first step that has none. -/
abbrev Checked := Except Fault

end DenseMedium
