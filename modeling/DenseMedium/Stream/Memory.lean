import DenseMedium.Arithmetic
import DenseMedium.Text.Ascii

/-!
Collecting bytes in memory.

A buffer in memory starts without room and never runs full: a piece for which it has no room makes it
grow first. It then at least doubles, so that it seldom grows, and may ask for more bytes than the
pieces need. When no allocation holds what it asks for, collecting ends there.
-/

namespace DenseMedium

namespace Memory

/-- The least room that a buffer asks for. -/
def leastRoom : Nat := 8

/-- The room that a buffer asks for when it cannot hold `needed` bytes. -/
def larger (room needed : Nat) : Nat := max leastRoom (max (2 * room) needed)

/-- The room of a buffer once it has to hold `needed` bytes. -/
def grow (room needed : Nat) : Checked Nat :=
  if needed ≤ room then return room
  else do
    Size.reserve (larger room needed) 1
    return larger room needed

/-- Makes room for one piece after another in a buffer that holds `length` bytes. -/
def extend (room length : Nat) : List Bytes → Checked Unit
  | [] => return ()
  | piece :: rest => do
      let grown ← grow room (length + piece.length)
      extend grown (length + piece.length) rest

/-- The bytes of all pieces. -/
def collect (pieces : List Bytes) : Checked Bytes := do
  extend 0 0 pieces
  return pieces.flatten

end Memory

end DenseMedium
