import DenseMedium.Lattice.Point

/-!
Extents: axis-aligned boxes of lattice points, given by a least point and a length per axis.

Three readings of an extent stand side by side here.

* **Membership** `p ∈ e` is stated over the integers and never faults.
* **`contains`** decides membership the way the operations of a grid do, through the least upper
  bound, and faults when that bound does not fit.
* **`points`** lists the members with x varying fastest, then y, then z; **`pointCount`**
  multiplies the lengths.

The constructor does not check the lengths, so zero and negative lengths are extents too. A
negative length counts as its 64-bit pattern in `pointCount`, and as empty in `points`.
-/

namespace DenseMedium

/-- Width, height and depth as unsigned words, the way headers and messages carry them. -/
structure Dimensions where
  width : UInt32
  height : UInt32
  depth : UInt32
  deriving DecidableEq, Repr, Inhabited

namespace Dimensions

def toList (d : Dimensions) : List UInt32 := [d.width, d.height, d.depth]

def along (d : Dimensions) : Axis → UInt32
  | .x => d.width
  | .y => d.height
  | .z => d.depth

instance : ToString Dimensions :=
  ⟨fun d => "(" ++ toString d.width ++ ", " ++ toString d.height ++ ", " ++ toString d.depth ++ ")"⟩

end Dimensions

@[ext]
structure Extent where
  minimum : Point
  shape : Point
  deriving DecidableEq, Repr, Inhabited

/-- The coordinates `lo, lo + 1, …` below `hi`, in order. -/
def interval (lo hi : Coordinate) : List Coordinate :=
  (List.range (hi.toInt - lo.toInt).toNat).map fun i : Nat => Int32.ofInt (lo.toInt + i)

namespace Extent

/-- The extent between a least point and an upper bound; a bound below the least point on some
axis gives length zero there. -/
def ofBounds (minimum bound : Point) : Checked Extent := do
  let lengths ← bound.sub minimum
  return ⟨minimum, lengths.join Point.zero⟩

/-- The extent of the given shape at the origin. -/
def ofShape (shape : Point) : Extent := ⟨Point.zero, shape⟩

/-- The lengths as unsigned words. A negative length wraps. -/
def dimensions (e : Extent) : Dimensions :=
  ⟨e.shape.x.toUInt32, e.shape.y.toUInt32, e.shape.z.toUInt32⟩

/-- The product of the lengths as sizes, faulting where it is no size. -/
def pointCount (e : Extent) : Checked Nat := do
  let plane ← Size.mul e.shape.x.toSize e.shape.y.toSize
  Size.mul plane e.shape.z.toSize

/-- The product of the lengths as sizes, if it is one. -/
def pointCount? (e : Extent) : Option Nat := do
  let plane ← Size.mul? e.shape.x.toSize e.shape.y.toSize
  Size.mul? plane e.shape.z.toSize

def isEmpty (e : Extent) : Checked Bool := do
  return (← e.pointCount) == 0

/-- A declared dimension as a coordinate: it must be positive and below `2 ^ 31`. -/
def axisLength? (d : UInt32) : Option Coordinate :=
  if 0 < d ∧ d < 2147483648 then some d.toInt32 else none

/-- The extent at the origin with declared dimensions, if each is a positive coordinate and the
number of points is a size. -/
def ofDimensions? (d : Dimensions) : Option Extent := do
  let width ← axisLength? d.width
  let height ← axisLength? d.height
  let depth ← axisLength? d.depth
  let e := ofShape ⟨width, height, depth⟩
  let _ ← e.pointCount?
  return e

def leastUpperBound (e : Extent) : Checked Point := e.minimum.add e.shape

/-- Membership over the integers, axis by axis. -/
instance : Membership Point Extent where
  mem e p :=
    (e.minimum.x.toInt ≤ p.x.toInt ∧ p.x.toInt < e.minimum.x.toInt + e.shape.x.toInt) ∧
    (e.minimum.y.toInt ≤ p.y.toInt ∧ p.y.toInt < e.minimum.y.toInt + e.shape.y.toInt) ∧
    (e.minimum.z.toInt ≤ p.z.toInt ∧ p.z.toInt < e.minimum.z.toInt + e.shape.z.toInt)

def contains (e : Extent) (p : Point) : Checked Bool := do
  let bound ← e.leastUpperBound
  return e.minimum ≤ p ∧ p < bound

/-- The extent of the points in both extents, anchored at the join of the two least points. -/
def intersection (a b : Extent) : Checked Extent := do
  let boundA ← a.leastUpperBound
  let boundB ← b.leastUpperBound
  ofBounds (a.minimum.join b.minimum) (boundA.meet boundB)

/-- The first axis whose length blocks of edge `k` do not tile. -/
def untileableAxis (e : Extent) (k : Coordinate) : Checked (Option Axis) :=
  e.shape.firstAxisNotMultipleOf k

/-- The points `p` with `lo ≤ p` and `p < hi`, x fastest, then y, then z. -/
def box (lo hi : Point) : List Point :=
  if lo < hi then
    (interval lo.z hi.z).flatMap fun z =>
      (interval lo.y hi.y).flatMap fun y =>
        (interval lo.x hi.x).map fun x => ⟨x, y, z⟩
  else []

/-- All points of the extent in canonical order. -/
def points (e : Extent) : Checked (List Point) := do
  return box e.minimum (← e.leastUpperBound)

end Extent

end DenseMedium
