import DenseMedium.Coefficient.Single
import DenseMedium.Fault

/-!
Spectral coefficients: one coefficient for each of the channels red, green and blue.
-/

namespace DenseMedium

@[ext]
structure Rgb where
  r : Single
  g : Single
  b : Single
  deriving DecidableEq, Repr, Inhabited

namespace Rgb

def splat (c : Single) : Rgb := ⟨c, c, c⟩

def zero : Rgb := splat .zero

/-- Where a maximum starts: below every number. -/
def negativeInfinity : Rgb := splat .negativeInfinity

def toList (c : Rgb) : List Single := [c.r, c.g, c.b]

/-- The coefficient of a channel, counted from zero. -/
def channel (c : Rgb) : Nat → Checked Single
  | 0 => .ok c.r
  | 1 => .ok c.g
  | 2 => .ok c.b
  | n => .error (.indexOutOfBounds 3 n)

def add (a b : Rgb) : Rgb := ⟨a.r.add b.r, a.g.add b.g, a.b.add b.b⟩

/-- The maximum of each channel. A side that is not a number is ignored. -/
def max (a b : Rgb) : Rgb := ⟨a.r.max b.r, a.g.max b.g, a.b.max b.b⟩

/-- Whether every channel of `a` is at least that of `b`. -/
def dominates (a b : Rgb) : Bool := b.r.le a.r && b.g.le a.g && b.b.le a.b

/-- Numeric equality of every channel. -/
def equal (a b : Rgb) : Bool := a.r.equal b.r && a.g.equal b.g && a.b.equal b.b

/-- Whether every channel is `+0.0`, bit for bit. -/
def isPositiveZero (c : Rgb) : Bool :=
  c.r.isPositiveZero && c.g.isPositiveZero && c.b.isPositiveZero

def isFinite (c : Rgb) : Bool := c.r.isFinite && c.g.isFinite && c.b.isFinite

/-- The maximum of a sequence of coefficients; below every number when there is none. -/
def maximum (cs : List Rgb) : Rgb := cs.foldl max negativeInfinity

end Rgb

end DenseMedium
