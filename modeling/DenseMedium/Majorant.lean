import DenseMedium.Grid.Voxels

/-!
Supervoxel majorants: upper bounds of extinction over cubic blocks.

A grid whose dimensions are multiples of the block size is cut into blocks of that edge. The
majorant of a block is, channel by channel, the greatest extinction in it; values that are not
numbers are ignored, so a block without any number has the majorant `-inf`.

* `blockMajorant` reduces one region of a voxel grid.
* `build` makes the grid of all block majorants. Cell `n` of it, counted in canonical order, is the
  reduction of the block at the `n`-th block coordinate, so the cells can be worked on in any order.
* `SupervoxelGrid` pairs a majorant grid with its block size and answers for voxels. The size is not
  checked against the grid there: one above `2 ^ 31 - 1` wraps to a negative edge.
-/

namespace DenseMedium

structure SupervoxelGrid where
  blockSize : UInt32
  majorants : Grid Rgb
  deriving DecidableEq, Repr

namespace SupervoxelGrid

/-- The edge of a block as a coordinate. -/
def edge (sv : SupervoxelGrid) : Coordinate := sv.blockSize.toInt32

/-- Dimensions in blocks. -/
def dimensions (sv : SupervoxelGrid) : Dimensions := sv.majorants.dimensions

/-- The voxels that the blocks cover. -/
def voxelExtent (sv : SupervoxelGrid) : Checked Extent := do
  let blocks := sv.majorants.extent
  let minimum ← blocks.minimum.scale sv.edge
  let shape ← blocks.shape.scale sv.edge
  return ⟨minimum, shape⟩

/-- The voxels that a block covers. -/
def blockExtent (sv : SupervoxelGrid) (block : Point) : Checked Extent := do
  return ⟨← block.scale sv.edge, Point.fill sv.edge⟩

/-- The majorant of the block that a voxel lies in. -/
def majorantAtVoxel (sv : SupervoxelGrid) (p : Point) : Outcome Rgb := do
  let voxels ← sv.voxelExtent
  if ← voxels.contains p then
    let block ← p.div sv.edge
    sv.majorants.get block
  else refuse (.outOfBounds p voxels.dimensions)

/-- The majorant of the whole grid. -/
def globalMajorant (sv : SupervoxelGrid) : Rgb := Rgb.maximum sv.majorants.values.toList

end SupervoxelGrid

namespace Majorant

/-- The greatest extinction of the voxels that a region shares with the grid. -/
def blockMajorant (g : VoxelGrid) (region : Extent) : Checked Rgb :=
  g.foldRegion region (fun m _ v => return m.max v.sigmaT) Rgb.negativeInfinity

/-- A block size as the edge of blocks that could tile a grid; zero, which tiles nothing, when it is
no coordinate. -/
def tilingEdge (blockSize : UInt32) : Coordinate :=
  if blockSize < 2147483648 then blockSize.toInt32 else 0

/-- The `n`-th block of a grid of blocks with the given shape, relative to its least block: `slice`
blocks make a plane. -/
def localBlock (shape : Point) (slice n : Nat) : Point :=
  let inSlice := n % slice
  ⟨.ofSize (inSlice % shape.x.toSize), .ofSize (inSlice / shape.x.toSize), .ofSize (n / slice)⟩

/-- The majorant of the `n`-th block. -/
def cell (g : VoxelGrid) (blocks : Extent) (edge : Coordinate) (slice n : Nat) : Checked Rgb := do
  let block ← blocks.minimum.add (localBlock blocks.shape slice n)
  let start ← block.scale edge
  blockMajorant g ⟨start, Point.fill edge⟩

/-- The extent of the blocks of a grid, in block coordinates. -/
def blockGrid (e : Extent) (edge : Coordinate) : Checked Extent := do
  let shape ← e.shape.div edge
  let minimum ← e.minimum.div edge
  return ⟨minimum, shape⟩

/-- The majorants of all blocks of the given size. -/
def build (g : VoxelGrid) (blockSize : UInt32) : Outcome SupervoxelGrid := do
  let edge := tilingEdge blockSize
  match ← g.extent.untileableAxis edge with
  | some axis => refuse (.indivisibleDimension axis (g.dimensions.along axis) blockSize)
  | none =>
      let blocks ← blockGrid g.extent edge
      let slice ← Size.mul blocks.shape.x.toSize blocks.shape.y.toSize
      let count ← blocks.pointCount
      Size.reserve count (Cell.width Rgb)
      if slice = 0 then throw (.fault .emptySlice)
      let values ← (List.range count).mapM fun n => (cell g blocks edge slice n : Outcome Rgb)
      let majorants ← Grid.ofValues blocks values.toArray
      return ⟨blockSize, majorants⟩

end Majorant

end DenseMedium
