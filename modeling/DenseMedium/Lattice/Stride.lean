import DenseMedium.Lattice.Extent

/-!
The canonical linearization of a box of cells: `stride = x + width * (y + height * z)`.

* `Stride.ofLocal` computes the formula and `Stride.toLocal` inverts it.
* `Walk.run` visits a region of an array in canonical order and keeps three running offsets instead
  of evaluating the formula at each point. Every offset is moved with checked additions, also past
  the last cell of a row, a plane and the region, so a region can fault only there.

Every codec and the majorant builder address cells through this module.
-/

namespace DenseMedium

namespace Stride

/-- The stride of a point relative to the least point of an array of the given shape. -/
def ofLocal (shape p : Point) : Checked Nat := do
  let column ← Size.mul shape.y.toSize p.z.toSize
  let row ← Size.add p.y.toSize column
  let plane ← Size.mul shape.x.toSize row
  Size.add p.x.toSize plane

/-- The point, relative to the least point, of a stride in an array of the given shape. -/
def toLocal (shape : Point) (stride : Nat) : Checked Point := do
  let row := shape.x.toSize
  let plane ← Size.mul row shape.y.toSize
  let z ← Size.div stride plane
  let inPlane := stride % plane
  let y ← Size.div inPlane row
  return ⟨.ofSize (inPlane % row), .ofSize y, .ofSize z⟩

end Stride

/-- What a walk knows of its array: how far apart two rows and two planes lie, and the offsets at
which the region starts on each axis. -/
structure Walk where
  rowStep : Nat
  planeStep : Nat
  xStart : Nat
  yStart : Nat
  zStart : Nat
  deriving DecidableEq, Repr

namespace Walk

variable {σ : Type}

/-- The offsets for a region that starts at `start`, relative to an array of the given shape. -/
def starting (shape start : Point) : Checked Walk := do
  let rowStep := shape.x.toSize
  let planeStep ← Size.mul rowStep shape.y.toSize
  let yStart ← Size.mul rowStep start.y.toSize
  let zStart ← Size.mul planeStep start.z.toSize
  return ⟨rowStep, planeStep, start.x.toSize, yStart, zStart⟩

/-- Visits one cell and moves on to the next of its row. -/
def cell (visit : σ → Point → Nat → Checked σ) (y z : Coordinate) (s : σ × Nat) (x : Coordinate) :
    Checked (σ × Nat) := do
  let state ← visit s.1 ⟨x, y, z⟩ s.2
  let next ← Size.add s.2 1
  return (state, next)

/-- Visits the row of the region `[lo, bound)` at height `y` and moves on to the next of its
plane. -/
def row (w : Walk) (visit : σ → Point → Nat → Checked σ) (lo bound : Point) (z : Coordinate)
    (s : σ × Nat) (y : Coordinate) : Checked (σ × Nat) := do
  let first ← Size.add s.2 w.xStart
  let visited ← (interval lo.x bound.x).foldlM (cell visit y z) (s.1, first)
  let next ← Size.add s.2 w.rowStep
  return (visited.1, next)

/-- Visits the plane of the region `[lo, bound)` at depth `z` and moves on to the next. -/
def plane (w : Walk) (visit : σ → Point → Nat → Checked σ) (lo bound : Point)
    (s : σ × Nat) (z : Coordinate) : Checked (σ × Nat) := do
  let first ← Size.add s.2 w.yStart
  let visited ← (interval lo.y bound.y).foldlM (row w visit lo bound z) (s.1, first)
  let next ← Size.add s.2 w.planeStep
  return (visited.1, next)

/-- Visits every point of `region` in canonical order together with its stride in an array that
occupies `whole`. The region is expected to lie inside the array. -/
def run (whole region : Extent) (visit : σ → Point → Nat → Checked σ) (init : σ) : Checked σ := do
  let lo := region.minimum
  let bound ← region.leastUpperBound
  let start ← lo.sub whole.minimum
  let w ← starting whole.shape start
  let visited ← (interval lo.z bound.z).foldlM (plane w visit lo bound) (init, w.zStart)
  return visited.1

/-- The visits of `run`, in order. -/
def visits (whole region : Extent) : Checked (List (Point × Nat)) := do
  let found ← run whole region (fun found p s => return (p, s) :: found) []
  return found.reverse

end Walk

end DenseMedium
