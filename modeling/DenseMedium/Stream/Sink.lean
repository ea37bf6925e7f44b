import DenseMedium.Stream.Error
import DenseMedium.Text.Ascii

/-!
Writers that may run full.

Everything that is written is a sequence of pieces, one for each write. A sink with room for a
number of bytes takes them in order; the piece that does not fit is taken up to the room that is
left, and nothing after it is attempted.
-/

namespace DenseMedium

/-- What a sink has taken, and whether that is everything. -/
structure Delivery where
  taken : Bytes
  isComplete : Bool
  deriving DecidableEq, Repr

/-- Delivers pieces into a sink with room for `room` bytes. -/
def deliver (room : Nat) : List Bytes → Delivery
  | [] => ⟨[], true⟩
  | piece :: rest =>
      if piece.length ≤ room then
        let d := deliver (room - piece.length) rest
        ⟨piece ++ d.taken, d.isComplete⟩
      else ⟨piece.take room, false⟩

/-- The error of a sink that ran full. -/
def sinkFull : StreamError := .stopped "writer full"

def Delivery.result (d : Delivery) : Except StreamError Unit :=
  if d.isComplete then .ok () else .error sinkFull

end DenseMedium
