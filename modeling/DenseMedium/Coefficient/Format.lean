/-!
Binary floating-point formats, in exact natural-number arithmetic.

The unsigned words of a format, read as numbers, are ordered like the values they stand for:
zero, the subnormals, the normals, infinity, and above that the words that are not numbers. So a
finite value is a natural number of **units**, the unit being the least positive value, and both
directions are short.

* `magnitude` gives the units of a word. It also extends to the word of infinity, where it is the
  power of two that ends the range.
* `nearest` gives the word whose value is nearest to a quotient of naturals, in units, with ties to
  the even word; what lies beyond the range becomes infinity.

Nothing here uses machine floating point, so every result is an equation between naturals.
-/

namespace DenseMedium

/-- A binary format: how many bits of the fraction and of the exponent are stored. -/
structure FloatFormat where
  fractionBits : Nat
  exponentBits : Nat
  deriving DecidableEq, Repr

/-- The quotient `n / d` rounded to the nearest natural, a tie going to the even one. -/
def roundHalfEven (n d : Nat) : Nat :=
  let q := n / d
  let twice := 2 * (n % d)
  if twice < d then q
  else if d < twice then q + 1
  else if q % 2 = 0 then q else q + 1

namespace FloatFormat

-- Powers of naturals are those of the core library, also where another instance is in scope.
attribute [local instance (2000)] instPowNat

def single : FloatFormat := ⟨23, 8⟩

def double : FloatFormat := ⟨52, 11⟩

/-- The weight of the bit that normal words leave out, and the distance in words between powers
of two. -/
def hidden (f : FloatFormat) : Nat := 2 ^ f.fractionBits

/-- The unsigned word of infinity. Greater words are not numbers. -/
def infinity (f : FloatFormat) : Nat := (2 ^ f.exponentBits - 1) * f.hidden

/-- One is `2 ^ unitExponent` units. -/
def unitExponent (f : FloatFormat) : Nat := 2 ^ (f.exponentBits - 1) - 2 + f.fractionBits

/-- One, in units. -/
def one (f : FloatFormat) : Nat := 2 ^ f.unitExponent

/-- The value of an unsigned word in units. -/
def magnitude (f : FloatFormat) (w : Nat) : Nat :=
  if w / f.hidden = 0 then w
  else (f.hidden + w % f.hidden) * 2 ^ (w / f.hidden - 1)

/-- How far the leading bit of `n / d` lies above the last bit that the format keeps. -/
def excess (f : FloatFormat) (n d : Nat) : Nat := (n / d).log2 - f.fractionBits

/-- The word nearest to `n / d` units. -/
def nearest (f : FloatFormat) (n d : Nat) : Nat :=
  let shift := f.excess n d
  min f.infinity (shift * f.hidden + roundHalfEven n (d * 2 ^ shift))

/-! ### Arithmetic on unsigned words -/

/-- The word nearest to the integer `n`. -/
def ofNat (f : FloatFormat) (n : Nat) : Nat := f.nearest (n * f.one) 1

/-- The product of two finite words, correctly rounded. -/
def mul (f : FloatFormat) (a b : Nat) : Nat := f.nearest (f.magnitude a * f.magnitude b) f.one

/-- The quotient of a finite word by a finite nonzero one, correctly rounded. -/
def div (f : FloatFormat) (a b : Nat) : Nat := f.nearest (f.magnitude a * f.one) (f.magnitude b)

/-- The finite word `w` of format `f`, rounded to format `g`. -/
def convert (f g : FloatFormat) (w : Nat) : Nat := g.nearest (f.magnitude w * g.one) f.one

end FloatFormat

end DenseMedium
