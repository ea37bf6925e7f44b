import DenseMedium.Text.Ascii

/-!
Writing through a buffer.

A buffer holds pieces back until more is written than it has space for. What it holds is then passed
on as one write. A piece that is as long as the whole buffer is passed on by itself. At the end the
buffer is flushed; until then nobody has got the bytes that it holds.
-/

namespace DenseMedium

structure Buffer where
  /-- The writes that have been passed on. -/
  passed : List Bytes
  /-- The pieces that are held back, the last one first. -/
  held : List Bytes
  /-- How many bytes are held back. -/
  length : Nat
  length_eq : length = held.reverse.flatten.length

namespace Buffer

/-- The bytes that a buffer has space for. -/
def capacity : Nat := 8192

def empty : Buffer := ⟨[], [], 0, rfl⟩

/-- The bytes that are held back, in order. -/
def bytes (b : Buffer) : Bytes := b.held.reverse.flatten

/-- Holds a piece back. -/
def hold (b : Buffer) (piece : Bytes) : Buffer where
  passed := b.passed
  held := piece :: b.held
  length := b.length + piece.length
  length_eq := by simp [b.length_eq]

/-- Passes on everything that is held back. -/
def flush (b : Buffer) : Buffer :=
  if b.length = 0 then b else ⟨b.passed ++ [b.bytes], [], 0, rfl⟩

/-- Passes a piece on. -/
def pass (b : Buffer) (piece : Bytes) : Buffer := { b with passed := b.passed ++ [piece] }

/-- Writes a piece. -/
def push (b : Buffer) (piece : Bytes) : Buffer :=
  let spare := capacity - b.length
  if piece.length < spare then b.hold piece
  else
    let ready := if spare < piece.length then b.flush else b
    if capacity ≤ piece.length then ready.pass piece else ready.hold piece

/-- A buffer after pieces have been written into it. -/
def ofPieces (pieces : List Bytes) : Buffer := pieces.foldl push empty

end Buffer

end DenseMedium
