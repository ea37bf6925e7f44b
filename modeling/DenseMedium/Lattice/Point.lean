import DenseMedium.Arithmetic
import DenseMedium.Lattice.Axis

/-!
Points of the lattice, with componentwise arithmetic and the strict product order.

* `p ≤ q` and `p < q` compare every component. The strict order is therefore not "below and
  different": `(0, 0)` and `(0, 1)` are related by `≤` only.
* Arithmetic stops at the first component, in the order x, y, z, whose result does not fit.
-/

namespace DenseMedium

@[ext]
structure Point where
  x : Coordinate
  y : Coordinate
  z : Coordinate
  deriving DecidableEq, Repr, Inhabited

namespace Point

def fill (c : Coordinate) : Point := ⟨c, c, c⟩

def zero : Point := fill 0

/-- The component on an axis. -/
def component (p : Point) : Axis → Coordinate
  | .x => p.x
  | .y => p.y
  | .z => p.z

/-! ### Order -/

instance : LE Point := ⟨fun p q => p.x ≤ q.x ∧ p.y ≤ q.y ∧ p.z ≤ q.z⟩

instance : LT Point := ⟨fun p q => p.x < q.x ∧ p.y < q.y ∧ p.z < q.z⟩

theorem le_def {p q : Point} : p ≤ q ↔ p.x ≤ q.x ∧ p.y ≤ q.y ∧ p.z ≤ q.z := Iff.rfl

theorem lt_def {p q : Point} : p < q ↔ p.x < q.x ∧ p.y < q.y ∧ p.z < q.z := Iff.rfl

instance (p q : Point) : Decidable (p ≤ q) := decidable_of_iff _ le_def.symm

instance (p q : Point) : Decidable (p < q) := decidable_of_iff _ lt_def.symm

/-- The order of two points, where they have one. -/
def compare? (p q : Point) : Option Ordering :=
  if p < q then some .lt
  else if p > q then some .gt
  else if p = q then some .eq
  else none

/-- Componentwise maximum. -/
def join (p q : Point) : Point := ⟨max p.x q.x, max p.y q.y, max p.z q.z⟩

/-- Componentwise minimum. -/
def meet (p q : Point) : Point := ⟨min p.x q.x, min p.y q.y, min p.z q.z⟩

/-! ### Arithmetic -/

/-- Combines two points component by component. -/
def zipWith (f : Coordinate → Coordinate → Checked Coordinate) (p q : Point) : Checked Point := do
  let x ← f p.x q.x
  let y ← f p.y q.y
  let z ← f p.z q.z
  return ⟨x, y, z⟩

def add (p q : Point) : Checked Point := zipWith Coordinate.add p q

def sub (p q : Point) : Checked Point := zipWith Coordinate.sub p q

def scale (p : Point) (k : Coordinate) : Checked Point := zipWith Coordinate.mul p (fill k)

/-- Division of each component by `k`, toward zero. -/
def div (p : Point) (k : Coordinate) : Checked Point := zipWith Coordinate.div p (fill k)

/-- The first of `axes` on which `p` is not a multiple of `k`. -/
def firstNonMultiple (p : Point) (k : Coordinate) : List Axis → Checked (Option Axis)
  | [] => .ok none
  | a :: rest => do
      if ← (p.component a).isMultiple k then firstNonMultiple p k rest else return some a

/-- The first axis on which `p` is not a multiple of `k`. Nothing is a multiple of zero. -/
def firstAxisNotMultipleOf (p : Point) (k : Coordinate) : Checked (Option Axis) :=
  p.firstNonMultiple k Axis.all

instance : ToString Point :=
  ⟨fun p => "(" ++ toString p.x ++ ", " ++ toString p.y ++ ", " ++ toString p.z ++ ")"⟩

end Point

end DenseMedium
