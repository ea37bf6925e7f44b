import DenseMedium.Binary.Word
import DenseMedium.Medium.Voxel
import DenseMedium.Stream.Sink

/-!
Records of the binary form.

A vector takes sixteen bytes: the three channels and a fourth word that is written as `+0.0` and not
looked at when it is read. A voxel is the three vectors of its coefficients, a majorant one vector.
The bits of a coefficient are copied, so a NaN keeps its payload.
-/

namespace DenseMedium

/-- A cell value with a fixed-size encoding. -/
class Record (α : Type) where
  /-- Encoded bytes. -/
  size : Nat
  /-- The words of the encoding, one write each. -/
  pieces : α → List Bytes
  /-- The record at the front and the bytes after it; nothing when the bytes end inside. -/
  read? : Bytes → Option (α × Bytes)

namespace Record

variable {α : Type} [Record α]

def encode (v : α) : Bytes := (pieces v).flatten

/-- Reads a record from the front of a stream. A stream that ends inside one is used up. -/
def readFront (b : Bytes) : Except StreamError α × Bytes :=
  match read? b with
  | some (v, rest) => (.ok v, rest)
  | none => (.error .endOfInput, [])

end Record

namespace Rgb

def vectorSize : Nat := 16

def pieces (c : Rgb) : List Bytes :=
  [c.r, c.g, c.b, Single.zero].map fun s => LittleEndian.encode s.bits

def read? (bytes : Bytes) : Option (Rgb × Bytes) := do
  let (r, afterR) ← LittleEndian.decode? bytes
  let (g, afterG) ← LittleEndian.decode? afterR
  let (b, afterB) ← LittleEndian.decode? afterG
  let (_, rest) ← LittleEndian.decode? afterB
  return (⟨⟨r⟩, ⟨g⟩, ⟨b⟩⟩, rest)

instance : Record Rgb := ⟨vectorSize, pieces, read?⟩

end Rgb

namespace Voxel

def pieces (v : Voxel) : List Bytes := v.sigmaA.pieces ++ v.sigmaS.pieces ++ v.emission.pieces

def read? (bytes : Bytes) : Option (Voxel × Bytes) := do
  let (sigmaA, afterA) ← Rgb.read? bytes
  let (sigmaS, afterS) ← Rgb.read? afterA
  let (emission, rest) ← Rgb.read? afterS
  return (⟨sigmaA, sigmaS, emission⟩, rest)

instance : Record Voxel := ⟨3 * Rgb.vectorSize, pieces, read?⟩

end Voxel

end DenseMedium
