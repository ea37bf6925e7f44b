import DenseMedium.Fault

/-!
Checked arithmetic on coordinates and sizes.

A coordinate is an `Int32` and a size is a natural number below `2 ^ 64`. Each operation computes
the exact integer and then asks whether it fits, so what an operation means can be read off the
integers: when it succeeds, its value is the mathematical one. The two conversions
`Coordinate.toSize` and `Coordinate.ofSize` are the only ones that wrap.
-/

namespace DenseMedium

abbrev Coordinate := Int32

namespace Coordinate

/-- The coordinate of value `v`, or `fault` when 32 bits do not hold it. -/
def ofInt (fault : Fault) (v : Int) : Checked Coordinate :=
  if -2147483648 ≤ v ∧ v ≤ 2147483647 then .ok (Int32.ofInt v) else .error fault

def add (a b : Coordinate) : Checked Coordinate :=
  ofInt .addOverflow (a.toInt + b.toInt)

def sub (a b : Coordinate) : Checked Coordinate :=
  ofInt .subOverflow (a.toInt - b.toInt)

def mul (a b : Coordinate) : Checked Coordinate :=
  ofInt .mulOverflow (a.toInt * b.toInt)

/-- Division truncates toward zero. Its one overflow is the least coordinate divided by `-1`. -/
def div (a b : Coordinate) : Checked Coordinate :=
  if b = 0 then .error .divByZero else ofInt .divOverflow (a.toInt.tdiv b.toInt)

/-- Whether `b` divides `a`. Zero divides nothing here, and dividing the least coordinate by `-1`
overflows before there is a remainder. -/
def isMultiple (a b : Coordinate) : Checked Bool :=
  if b = 0 then .ok false
  else if a.toInt.tdiv b.toInt = 2147483648 then .error .remOverflow
  else .ok (a.toInt.tmod b.toInt = 0)

/-- The 64-bit pattern of the sign-extended coordinate: a negative `a` becomes `2 ^ 64 + a`. -/
def toSize (a : Coordinate) : Nat :=
  (a.toInt % 18446744073709551616).toNat

/-- The low 32 bits of a size, read as a signed number. -/
def ofSize (n : Nat) : Coordinate :=
  Int32.ofInt n

end Coordinate

namespace Size

/-- The number of sizes. -/
def bound : Nat := 18446744073709551616

/-- The most bytes that one allocation can hold. -/
def maxBytes : Nat := 9223372036854775807

def fit (fault : Fault) (n : Nat) : Checked Nat :=
  if n < bound then .ok n else .error fault

def add (a b : Nat) : Checked Nat :=
  fit .addOverflow (a + b)

def mul (a b : Nat) : Checked Nat :=
  fit .mulOverflow (a * b)

def div (a b : Nat) : Checked Nat :=
  if b = 0 then .error .divByZero else .ok (a / b)

/-- The product, if it is a size. -/
def mul? (a b : Nat) : Option Nat :=
  if a * b < bound then some (a * b) else none

def add? (a b : Nat) : Option Nat :=
  if a + b < bound then some (a + b) else none

/-- Room for `count` elements of `width` bytes each. -/
def reserve (count width : Nat) : Checked Unit :=
  if count * width ≤ maxBytes then .ok () else .error .capacityOverflow

end Size

end DenseMedium
