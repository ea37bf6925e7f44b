import DenseMedium.Coefficient.Single

/-!
Double-precision numbers, as the components of a document are read.

A double is a sign and an unsigned word of the double format. Reading a document never makes one
that is not a number, and only `narrow` leaves the type.
-/

namespace DenseMedium

structure Double where
  negative : Bool
  word : Nat
  deriving DecidableEq, Repr, Inhabited

namespace Double

def zero : Double := ⟨false, 0⟩

/-- The double nearest to an integer; zero is positive. -/
def ofInt (v : Int) : Double := ⟨v < 0, FloatFormat.double.ofNat v.natAbs⟩

/-- The single-precision coefficient nearest to a double, infinite beyond its range. -/
def narrow (d : Double) : Single :=
  Single.ofWord d.negative (FloatFormat.double.convert FloatFormat.single d.word)

end Double

end DenseMedium
