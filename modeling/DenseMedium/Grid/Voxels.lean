import DenseMedium.Grid.Basic

/-!
Voxel grids: empty grids by dimensions, extinction, and fill functions for test media.
-/

namespace DenseMedium

namespace VoxelGrid

/-- The dimension to blame for an impossible size: the first that is no positive coordinate, or
the largest if each of them is one. -/
def offendingSize (d : Dimensions) : UInt32 :=
  match d.toList.find? fun n => (Extent.axisLength? n).isNone with
  | some n => n
  | none => max (max d.width d.height) d.depth

/-- Whether memory can address a grid over the extent. -/
def isAddressable (e : Extent) : Checked Bool := do
  let count ← e.pointCount
  match Size.mul? count (Cell.width Voxel) with
  | some bytes => return bytes ≤ Size.maxBytes
  | none => return false

/-- A grid of empty voxels at the origin. -/
def zeroed (d : Dimensions) : Outcome VoxelGrid := do
  match Extent.ofDimensions? d with
  | none => refuse (.invalidSize (offendingSize d))
  | some e =>
      if ← isAddressable e then Grid.fill e Voxel.empty
      else refuse (.invalidSize (offendingSize d))

/-- Extinction, cell by cell. -/
def sigmaT (g : VoxelGrid) : Grid Rgb := g.map Voxel.sigmaT

/-- The greatest extinction in the grid, channel by channel. -/
def maxExtinction (g : VoxelGrid) : Rgb := Rgb.maximum (g.values.toList.map Voxel.sigmaT)

/-! ### Fill functions -/

variable {σ : Type}

/-- `hot` at `p` and empty everywhere else. -/
def singleVoxel (p : Point) (hot : Voxel) (q : Point) : StateT σ Checked Voxel :=
  return if q = p then hot else Voxel.empty

/-- The squared distance of two points. -/
def distanceSquared (p q : Point) : Checked Coordinate := do
  let d ← p.sub q
  let x ← Coordinate.mul d.x d.x
  let y ← Coordinate.mul d.y d.y
  let xy ← Coordinate.add x y
  let z ← Coordinate.mul d.z d.z
  Coordinate.add xy z

/-- A ball of `inner` in empty space. -/
def ball (center : Point) (radius : Coordinate) (inner : Voxel) (p : Point) :
    StateT σ Checked Voxel := do
  let distance ← distanceSquared p center
  let limit ← Coordinate.mul radius radius
  return if distance < limit then inner else Voxel.empty

end VoxelGrid

end DenseMedium
