import DenseMedium.Grid.Basic
import DenseMedium.Json.Tree
import DenseMedium.Runs
import DenseMedium.Stream.Written

/-!
Writing grids as structured documents.

A grid is checked before a byte is written: a document has no numeral for a coefficient that is not
finite. The emission of a record is left out exactly when it is `+0.0` in every channel. There is one
sequence of writes (`writing`); `encode` collects it in memory and `write` passes it to a sink.
-/

namespace DenseMedium

namespace Structured

open Json

/-- The layout of documents when none is asked for. -/
def defaultLayout : Layout := .pretty 4

/-! ### The tree of a grid -/

def coefficientTree (c : Rgb) : Tree := .list (c.toList.map fun s => .number s.spell)

def recordTree (v : Voxel) : Tree :=
  let scattering := [coefficientTree v.sigmaA, coefficientTree v.sigmaS]
  if v.emission.isPositiveZero then .list scattering
  else .list (scattering ++ [coefficientTree v.emission])

/-- Values in canonical order as planes of rows of records; neither dimension is zero. -/
def planesTree (width height : Nat) (values : List Voxel) : Tree :=
  .list ((runs (width * height - 1) values).map fun plane =>
    .list ((runs (width - 1) plane).map fun row => .list (row.map recordTree)))

/-- The members before the grid. -/
def dimensionMembers (d : Dimensions) : List (String × Tree) :=
  Axis.all.map fun a => (a.dimensionName, .number (Ascii.decimal (d.along a).toNat))

def gridKey : String := "grid"

def tree (g : VoxelGrid) : Tree :=
  let d := g.dimensions
  let planes := planesTree d.width.toNat d.height.toNat g.values.toList
  .object (dimensionMembers d ++ [(gridKey, planes)])

/-! ### Checks -/

/-- The first point in canonical order with a coefficient that is not finite. -/
def firstNonFinite? (g : VoxelGrid) : Checked (Option Point) := do
  return ((← g.entries).find? fun (_, v) => !v.isFinite).map Prod.fst

/-- Whether the values can be cut into planes and rows. -/
def isCuttable (g : VoxelGrid) : Bool :=
  let d := g.dimensions
  d.width.toNat * d.height.toNat ≠ 0

/-- What comes before the first byte: every coefficient needs a numeral, and then the spaces of one
level need room. -/
def prepare (l : Layout) (g : VoxelGrid) : Outcome Unit := do
  match ← firstNonFinite? g with
  | some p => refuse (.schema (.nonFinite p))
  | none => l.reserve

/-! ### Entry points -/

/-- The writes of the document, or of as much of it as comes before the failure. -/
def writing (l : Layout) (g : VoxelGrid) : Writing :=
  match prepare l g with
  | .error x => .failed x
  | .ok () =>
      if isCuttable g then ⟨(tree g).write l, .ok ()⟩
      else ⟨opening l (dimensionMembers g.dimensions) gridKey, .error (.fault .emptyPiece)⟩

/-- The document of a grid, in memory. -/
def encode (l : Layout) (g : VoxelGrid) : Outcome Bytes := (writing l g).collect

/-- What a sink with room for `room` bytes takes of the document, or the refusal that came before
any byte. -/
def write (room : Nat) (l : Layout) (g : VoxelGrid) : Checked Written := (writing l g).into room

end Structured

end DenseMedium
