/-!
The three axes of the lattice. X spans the width of a grid, Y its height and Z its depth.
-/

namespace DenseMedium

inductive Axis where
  | x
  | y
  | z
  deriving DecidableEq, Repr, Inhabited

namespace Axis

def all : List Axis := [.x, .y, .z]

def index : Axis → Nat
  | .x => 0
  | .y => 1
  | .z => 2

/-- The name of the grid dimension along the axis, as documents and messages spell it. -/
def dimensionName : Axis → String
  | .x => "width"
  | .y => "height"
  | .z => "depth"

instance : ToString Axis := ⟨dimensionName⟩

end Axis

end DenseMedium
