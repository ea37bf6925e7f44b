import DenseMedium.Coefficient.Format

/-!
The shortest decimal that reads back to a floating-point word.

A finite value is a number of units `2 ^ -u`, and a unit is `5 ^ u` times `10 ^ -u`, so every finite
value is a natural number of the decimal quanta `10 ^ -u`. The grids of multiples of `10 ^ k` quanta
are nested. `Decimal.shortest` takes the coarsest grid on which one of the two neighbours of the
value reads back, and on it the neighbour nearest to the value, a tie going to the even one.
-/

namespace DenseMedium

-- Powers of naturals are those of the core library, also where another instance is in scope.
attribute [local instance (2000)] instPowNat

/-- The decimal `digits * 10 ^ exponent`. -/
structure Decimal where
  digits : Nat
  exponent : Int
  deriving DecidableEq, Repr

namespace FloatFormat

/-- The quanta in one unit. -/
def quanta (f : FloatFormat) : Nat := 5 ^ f.unitExponent

/-- Whether a number of quanta rounds to the word `w`. -/
def readsBack (f : FloatFormat) (w c : Nat) : Bool := f.nearest c f.quanta = w

end FloatFormat

namespace Decimal

/-- The greatest `k` with `10 ^ k ≤ n`, for positive `n`. -/
def leadingPower (n : Nat) : Nat :=
  if n < 10 then 0 else leadingPower (n / 10) + 1

/-- The multiple of `step`, as a multiplier, that stands for `n` quanta on that grid: of the two
around `n` the one that reads back to `w`, or the nearer if both do. -/
def neighbour? (f : FloatFormat) (w n step : Nat) : Option Nat :=
  let low := n / step
  let lowReads := f.readsBack w (low * step)
  let highReads := f.readsBack w ((low + 1) * step)
  if lowReads && highReads then some (roundHalfEven n step)
  else if lowReads then some low
  else if highReads then some (low + 1)
  else none

/-- The coarsest grid `10 ^ k` with `k` at most the given one that has a neighbour of `n` reading
back to `w`. The finest grid holds `n` itself. -/
def coarsest (f : FloatFormat) (w n : Nat) : Nat → Nat × Nat
  | 0 => (n, 0)
  | k + 1 =>
      match neighbour? f w n (10 ^ (k + 1)) with
      | some d => (d, k + 1)
      | none => coarsest f w n k

/-- The shortest decimal that reads back to the finite unsigned word `w`. -/
def shortest (f : FloatFormat) (w : Nat) : Decimal :=
  let n := f.magnitude w * f.quanta
  if n = 0 then ⟨0, 0⟩
  else
    let (d, k) := coarsest f w n (leadingPower n + 1)
    ⟨d, k - f.unitExponent⟩

end Decimal

end DenseMedium
