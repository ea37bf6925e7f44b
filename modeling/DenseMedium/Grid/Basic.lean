import DenseMedium.Failure
import DenseMedium.Lattice.Stride
import DenseMedium.Medium.Voxel

/-!
Dense grids: one value for each point of an extent, kept in canonical order.

The canonical order is that of `Stride.ofLocal`, and every codec writes values in it, so
`Grid.values` is also the body of the binary form. A grid is read and written

* at a point, checked against the extent: `get`, `modify`, `set`;
* at a stride, checked against the number of values: `at?`, `modifyAt`, `setAt`;
* over a region, at the points that the region shares with the grid: `foldRegion`, `updateRegion`;
* as a whole: `entries`, `map`.
-/

namespace DenseMedium

/-- How many bytes of memory one cell takes. -/
class Cell (α : Type) where
  width : Nat

instance : Cell Voxel := ⟨36⟩

instance : Cell Rgb := ⟨12⟩

structure Grid (α : Type) where
  extent : Extent
  values : Array α
  deriving DecidableEq, Repr

abbrev VoxelGrid := Grid Voxel

namespace Grid

variable {α β σ : Type}

/-! ### Construction -/

/-- The grid of the given values, of which there must be one for each point. -/
def ofValues (e : Extent) (values : Array α) : Outcome (Grid α) := do
  let expected ← e.pointCount
  if expected ≠ values.size then
    refuse (.dimensionMismatch "voxel records" expected values.size)
  else return ⟨e, values⟩

/-- The same value everywhere. -/
def fill [Cell α] (e : Extent) (v : α) : Checked (Grid α) := do
  let count ← e.pointCount
  Size.reserve count (Cell.width α)
  return ⟨e, Array.replicate count v⟩

/-- The values that `filler` makes point by point, in canonical order. -/
def fillWith (e : Extent) (filler : Point → StateT σ Checked α) : StateT σ Checked (Grid α) := do
  let points ← e.points
  let values ← points.mapM filler
  return ⟨e, values.toArray⟩

/-! ### The whole grid -/

def dimensions (g : Grid α) : Dimensions := g.extent.dimensions

def contains (g : Grid α) (p : Point) : Checked Bool := g.extent.contains p

/-- Every point with its value, in canonical order. -/
def entries (g : Grid α) : Checked (List (Point × α)) := do
  return (← g.extent.points).zip g.values.toList

/-- A new grid over the same extent. -/
def map (f : α → β) (g : Grid α) : Grid β := ⟨g.extent, g.values.map f⟩

/-- A new grid over the same extent, unless some value faults. -/
def mapChecked (f : α → Checked β) (g : Grid α) : Checked (Grid β) := do
  return ⟨g.extent, ← g.values.mapM f⟩

/-! ### Strides -/

/-- The stride of a point, if the grid contains it. -/
def stride? (g : Grid α) (p : Point) : Checked (Option Nat) := do
  if ← g.contains p then
    let start ← p.sub g.extent.minimum
    return some (← Stride.ofLocal g.extent.shape start)
  else return none

/-- The stride of a point, which the grid must contain. -/
def stride (g : Grid α) (p : Point) : Outcome Nat := do
  match ← g.stride? p with
  | some s => return s
  | none => refuse (.outOfBounds p g.dimensions)

/-- The value at a stride. -/
def at? (g : Grid α) (s : Nat) : Checked α :=
  match g.values[s]? with
  | some v => .ok v
  | none => .error (.indexOutOfBounds g.values.size s)

/-- Replaces the value at a stride by what `f` makes of it. -/
def modifyAt (g : Grid α) (s : Nat) (f : α → Checked α) : Checked (Grid α) := do
  let v ← f (← g.at? s)
  return { g with values := g.values.setIfInBounds s v }

def setAt (g : Grid α) (s : Nat) (v : α) : Checked (Grid α) := g.modifyAt s fun _ => .ok v

/-! ### Points -/

def get (g : Grid α) (p : Point) : Outcome α := do
  g.at? (← g.stride p)

/-- Replaces the value at a point by what `f` makes of it. -/
def modify (g : Grid α) (p : Point) (f : α → Checked α) : Outcome (Grid α) := do
  g.modifyAt (← g.stride p) f

def set (g : Grid α) (p : Point) (v : α) : Outcome (Grid α) := g.modify p fun _ => .ok v

/-! ### Regions -/

/-- The part of a region that lies in the grid. -/
def clip (g : Grid α) (region : Extent) : Checked Extent := region.intersection g.extent

/-- Visits the points that the region shares with the grid, in canonical order. -/
def foldRegion (g : Grid α) (region : Extent) (f : σ → Point → α → Checked σ) (init : σ) :
    Checked σ := do
  let shared ← g.clip region
  Walk.run g.extent shared (fun s p i => do f s p (← g.at? i)) init

/-- Visits the same points as `foldRegion` and replaces each value by what `f` makes of it. -/
def updateRegion (g : Grid α) (region : Extent) (f : σ → Point → α → Checked (α × σ)) (init : σ) :
    Checked (Grid α × σ) := do
  let shared ← g.clip region
  Walk.run g.extent shared
    (fun (s : Grid α × σ) p i => do
      let (v, state) ← f s.2 p (← s.1.at? i)
      return ({ s.1 with values := s.1.values.setIfInBounds i v }, state))
    (g, init)

end Grid

end DenseMedium
