import DenseMedium.Grid.Basic
import DenseMedium.Structured.Document

/-!
Reading grids from structured documents.

The document is read to its end first. Then the declared dimensions are checked, then the total
number of records, then the nesting plane by plane and row by row, and last the components in
canonical order. A component that single precision does not hold is refused, so every coefficient of
a decoded grid is finite.
-/

namespace DenseMedium

namespace Structured

/-! ### Coefficients -/

/-- A coefficient in single precision, infinite where a component is out of range. -/
def Components.narrow (c : Components) : Rgb := ⟨c.r.narrow, c.g.narrow, c.b.narrow⟩

/-- The first component that single precision does not hold. -/
def Components.outOfRange? (c : Components) : Option Double :=
  [c.r, c.g, c.b].find? fun d => !d.narrow.isFinite

/-- The coefficient `name` of the voxel at `p`. -/
def coefficient (p : Point) (name : String) (c : Components) : Outcome Rgb :=
  match c.outOfRange? with
  | some d => refuse (.schema (.outOfRange p name d))
  | none => return c.narrow

def RawRecord.toVoxel (p : Point) (r : RawRecord) : Outcome Voxel := do
  let sigmaA ← coefficient p "sigma_a" r.sigmaA
  let sigmaS ← coefficient p "sigma_s" r.sigmaS
  let emission ← coefficient p "emission" r.emission
  return ⟨sigmaA, sigmaS, emission⟩

/-! ### Nesting -/

def checkLength (what : String) (expected actual : Nat) : Outcome Unit :=
  if actual = expected then return ()
  else refuse (.dimensionMismatch what expected actual)

namespace Document

def checkRecordCount (d : Document) (expected : Nat) : Outcome Unit :=
  checkLength "voxel records" expected d.records.length

/-- Depth planes of `height` rows of `width` records. -/
def checkNesting (d : Document) : Outcome Unit := do
  checkLength "depth planes" d.depth.toNat d.planes.length
  d.planes.forM fun plane => do
    checkLength "rows per plane" d.height.toNat plane.length
    plane.forM fun row => checkLength "voxels per row" d.width.toNat row.length

/-- The grid at the origin that the document describes. -/
def toGrid (d : Document) : Outcome VoxelGrid := do
  match Extent.ofDimensions? d.dimensions with
  | none => refuse (.schema (.dimensions d.dimensions))
  | some e =>
      d.checkRecordCount (← e.pointCount)
      d.checkNesting
      let points ← e.points
      let values ← (points.zip d.records).mapM fun (p, r) => r.toVoxel p
      Grid.ofValues e values.toArray

end Document

/-! ### Entry points -/

def readError : Json.ReadError → GridError
  | .source cause => .io cause
  | e => .schema (.unreadable e)

/-- The grid in the bytes up to `e`. -/
def decodeBytes (e : Ending) (b : Bytes) : Outcome VoxelGrid :=
  match Document.read e b with
  | .ok d => d.toGrid
  | .error x => refuse (readError x)

/-- The grid in a text. -/
def decode (text : String) : Outcome VoxelGrid := decodeBytes .complete (Utf8.bytes text)

/-- The grid that a source delivers. -/
def read (s : Source) : Outcome VoxelGrid :=
  let (b, e) := s.received Buffer.capacity
  decodeBytes e b

end Structured

end DenseMedium
