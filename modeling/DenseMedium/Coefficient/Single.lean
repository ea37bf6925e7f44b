import DenseMedium.Coefficient.Format

/-!
Single-precision coefficients, carried as their 32 bits.

The bits are the value: a coefficient that is stored, copied or encoded keeps them, the payload of a
NaN included. Arithmetic is exact rounding of the integers behind the bits. Two relations live side
by side: `=` compares bits, and `Single.equal`, `Single.le` compare numbers, so that both zeros are
equal there and a NaN is equal to nothing.
-/

namespace DenseMedium

@[ext]
structure Single where
  bits : UInt32
  deriving DecidableEq, Repr, Inhabited

namespace Single

/-- The bits without the sign. -/
def word (c : Single) : Nat := c.bits.toNat % 2147483648

def isNegative (c : Single) : Bool := 2147483648 ≤ c.bits.toNat

/-- The coefficient with a sign and an unsigned word. -/
def ofWord (negative : Bool) (w : Nat) : Single :=
  ⟨UInt32.ofNat (if negative then 2147483648 + w else w)⟩

def zero : Single := ⟨0⟩

def negativeInfinity : Single := ofWord true FloatFormat.single.infinity

/-- The NaN that arithmetic yields. -/
def nan : Single := ⟨0x7fc00000⟩

def isNaN (c : Single) : Bool := FloatFormat.single.infinity < c.word

def isInfinite (c : Single) : Bool := c.word = FloatFormat.single.infinity

def isFinite (c : Single) : Bool := c.word < FloatFormat.single.infinity

/-- Whether the coefficient is `+0.0`, bit for bit. -/
def isPositiveZero (c : Single) : Bool := c.bits = 0

/-! ### Order -/

/-- The place of a number on the line of words; both zeros stand at `0`. -/
def key (c : Single) : Int := if c.isNegative then -(c.word : Int) else c.word

/-- Numeric comparison; false as soon as one side is not a number. -/
def le (a b : Single) : Bool := !a.isNaN && !b.isNaN && a.key ≤ b.key

/-- Numeric equality; false as soon as one side is not a number. -/
def equal (a b : Single) : Bool := !a.isNaN && !b.isNaN && a.key = b.key

/-- The greater of two numbers. A side that is not a number is ignored. -/
def max (a b : Single) : Single :=
  if a.isNaN then b
  else if b.isNaN then a
  else if a.key < b.key then b
  else a

/-! ### Addition -/

/-- The value of a finite coefficient in units of the format. -/
def units (c : Single) : Int :=
  let m : Int := FloatFormat.single.magnitude c.word
  if c.isNegative then -m else m

/-- The coefficient nearest to an integer number of units. -/
def ofUnits (v : Int) : Single :=
  ofWord (v < 0) (FloatFormat.single.nearest v.natAbs 1)

/-- The sum rounded to nearest. An exact zero is positive unless both sides are negative. -/
def add (a b : Single) : Single :=
  if a.isNaN || b.isNaN then nan
  else if a.isInfinite && b.isInfinite then (if a.isNegative = b.isNegative then a else nan)
  else if a.isInfinite then a
  else if b.isInfinite then b
  else
    let sum := a.units + b.units
    if sum = 0 then ofWord (a.isNegative && b.isNegative) 0 else ofUnits sum

/-- The uniform coefficient in `[0, 1)` that a word of random bits stands for: its upper 24 bits
over `2 ^ 24`. -/
def ofRandom (w : UInt32) : Single :=
  ofWord false (FloatFormat.single.nearest (w.toNat / 256 * FloatFormat.single.one) 16777216)

/-- The coefficient nearest to an integer. -/
def ofInt (v : Int) : Single :=
  ofWord (v < 0) (FloatFormat.single.ofNat v.natAbs)

end Single

end DenseMedium
