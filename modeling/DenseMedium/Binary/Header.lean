import DenseMedium.Binary.Word
import DenseMedium.Failure

/-!
The header of a binary grid: width, height and depth, then a reserved word that is zero.

Checks come in a fixed order: sixteen bytes, the reserved word, the dimensions, the length that they
declare, and last the length of the stream against it.
-/

namespace DenseMedium

structure Header where
  dimensions : Dimensions
  deriving DecidableEq, Repr

namespace Header

def size : Nat := 16

def ofExtent (e : Extent) : Header := ⟨e.dimensions⟩

/-- The four words, one write each. -/
def pieces (h : Header) : List Bytes :=
  [h.dimensions.width, h.dimensions.height, h.dimensions.depth, 0].map LittleEndian.encode

/-- The extent that the header declares. -/
def extent (h : Header) : Outcome Extent :=
  match Extent.ofDimensions? h.dimensions with
  | some e => .ok e
  | none => refuse (.headerInvalid (.dimensions h.dimensions))

/-- The bytes of a whole stream with records of `recordSize` bytes, if that is a size. -/
def streamLength? (h : Header) (recordSize : Nat) : Option Nat := do
  let rows ← Size.mul? recordSize h.dimensions.width.toNat
  let planes ← Size.mul? rows h.dimensions.height.toNat
  let body ← Size.mul? planes h.dimensions.depth.toNat
  Size.add? body size

def streamLength (h : Header) (recordSize : Nat) : Outcome Nat :=
  match h.streamLength? recordSize with
  | some n => .ok n
  | none => refuse (.headerInvalid (.overflow h.dimensions))

/-- The four words at the front. -/
def words? (b : Bytes) : Option (Dimensions × UInt32) := do
  let (width, afterWidth) ← LittleEndian.decode? b
  let (height, afterHeight) ← LittleEndian.decode? afterWidth
  let (depth, afterDepth) ← LittleEndian.decode? afterHeight
  let (reserved, _) ← LittleEndian.decode? afterDepth
  return (⟨width, height, depth⟩, reserved)

/-- The header at the front of `b`. -/
def read (b : Bytes) : Outcome Header :=
  match words? b with
  | none => refuse (.truncatedStream size b.length)
  | some (dimensions, reserved) =>
      if reserved ≠ 0 then refuse (.headerInvalid (.reserved reserved))
      else do
        let h : Header := ⟨dimensions⟩
        let _ ← h.extent
        return h

/-- The header of a stream that holds exactly the body it declares. -/
def readStream (b : Bytes) (recordSize : Nat) : Outcome (Header × Extent) := do
  let h ← read b
  let e ← h.extent
  let expected ← h.streamLength recordSize
  if b.length < expected then refuse (.truncatedStream expected b.length)
  else if expected < b.length then
    refuse (.dimensionMismatch "binary stream length" expected b.length)
  else return (h, e)

end Header

end DenseMedium
