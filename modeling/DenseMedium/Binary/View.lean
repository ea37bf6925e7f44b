import DenseMedium.Binary.Codec

/-!
Reading single records of an encoded grid in place.

The header and the length are checked once; a look-up then computes the offset of the record from
its stride and decodes those bytes alone.
-/

namespace DenseMedium

/-- An encoded grid of `α` records. -/
structure View (α : Type) where
  bytes : Bytes
  header : Header
  extent : Extent

namespace View

variable {α : Type} [Record α]

/-- A view of a stream that holds exactly what its header declares. -/
def ofBytes (b : Bytes) : Outcome (View α) := do
  let (h, e) ← Header.readStream b (Record.size α)
  return ⟨b, h, e⟩

def dimensions (v : View α) : Dimensions := v.extent.dimensions

/-- The offset of the record at a stride. -/
def offset (α : Type) [Record α] (stride : Nat) : Checked Nat := do
  let skipped ← Size.mul stride (Record.size α)
  Size.add Header.size skipped

/-- The record at a point. -/
def get (v : View α) (p : Point) : Outcome α := do
  if ← v.extent.contains p then
    let start ← p.sub v.extent.minimum
    let stride ← Stride.ofLocal v.extent.shape start
    let first ← offset α stride
    let last ← Size.add first (Record.size α)
    match Record.read? ((v.bytes.take last).drop first) with
    | some (r, _) => return r
    | none => refuse (.io .endOfInput)
  else refuse (.outOfBounds p v.dimensions)

end View

end DenseMedium
