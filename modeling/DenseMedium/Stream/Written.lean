import DenseMedium.Failure
import DenseMedium.Stream.Memory
import DenseMedium.Stream.Sink

/-!
Writing into memory and into a sink: what is going to be written, and the outcome, which is the bytes
that were taken and how the writing ended.
-/

namespace DenseMedium

/-- What a writer is asked to write, and how the writing ends when every write succeeds. -/
structure Writing where
  pieces : List Bytes
  ending : Outcome Unit

structure Written where
  taken : Bytes
  result : Except GridError Unit

namespace Written

def ofDelivery (d : Delivery) : Written := ⟨d.taken, d.result.mapError .io⟩

/-- What a sink with room for `room` bytes takes of a sequence of writes. -/
def ofPieces (room : Nat) (pieces : List Bytes) : Written := ofDelivery (deliver room pieces)

end Written

namespace Writing

/-- A writing that fails before it has written a byte. -/
def failed (x : Failure) : Writing := ⟨[], .error x⟩

/-- Writes into memory, and answers with the bytes. -/
def collect (w : Writing) : Outcome Bytes := do
  let b ← Memory.collect w.pieces
  w.ending
  return b

/-- Writes into a sink with room for `room` bytes. A sink that runs full hides how the writing would
have ended. -/
def into (room : Nat) (w : Writing) : Checked Written :=
  let d := deliver room w.pieces
  if d.isComplete then
    match w.ending with
    | .ok () => return ⟨d.taken, .ok ()⟩
    | .error (.refused e) => return ⟨d.taken, .error e⟩
    | .error (.fault x) => .error x
  else return .ofDelivery d

end Writing

end DenseMedium
