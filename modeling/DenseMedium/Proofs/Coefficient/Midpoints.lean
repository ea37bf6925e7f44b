import DenseMedium.Json.NumberLiteral
import DenseMedium.Proofs.Coefficient.Residues
import DenseMedium.Proofs.Coefficient.Shortest

/-!
Short decimals close to a midpoint.

A decimal that lies very close to the midpoint of two neighbouring single-precision values may be
read to the wrong side of it. The decimals of up to 26 bits that lie within one part in `2 ^ 50` of a
midpoint are few, and `nearMidpoints` finds them, grid by grid: twice the decimals of a grid are an
arithmetic progression, and the midpoints with one gap are the odd multiples of the gap.

`keepsNeighbour_of_near`: each of them that is the neighbour of the value it reads back to is also read
to that value through double precision.
-/

namespace DenseMedium

namespace Decimal

open FloatFormat

/-- The quanta of a gap of `2 ^ j` units of single precision. -/
def gapQuanta (j : Nat) : Nat := 2 ^ j * single.quanta

/-- How close to a midpoint with a gap of `2 ^ j` is close, in half quanta. -/
def margin (j : Nat) : Nat := gapQuanta j / 2 ^ 25

/-- The digits of the decimals on the grid `10 ^ k` that lie close to a midpoint with a gap of
`2 ^ j`. -/
def nearMidpoints (k j : Nat) : List Nat :=
  let step := 2 * 10 ^ k
  let period := 2 * gapQuanta j
  let first := if j = 0 then 0 else 2 ^ 24 * gapQuanta j / step
  let last := min ((2 ^ 25 * gapQuanta j + margin j) / step) (2 ^ 26 - 1)
  if last < first then []
  else
    (residues 100 (step % period) ((step * first + margin j + gapQuanta j) % period) period
      (2 * margin j) (last - first)).filterMap fun x =>
        if (step * (first + x) + margin j + gapQuanta j) % period ≤ 2 * margin j then
          some (first + x)
        else none

/-- The word that the decimal `d * 10 ^ k` quanta is read to through double precision. -/
def throughDouble (k d : Nat) : Nat :=
  if single.unitExponent ≤ k then
    double.convert single
      (double.mul (double.ofNat d) (Json.powerOfTen (k - single.unitExponent)))
  else
    double.convert single
      (double.div (double.ofNat d) (Json.powerOfTen (single.unitExponent - k)))

/-- Whether reading through double precision keeps the decimal `d * 10 ^ k` quanta at its word, if it
is the neighbour of the value of the word. -/
def keepsNeighbour (k d : Nat) : Bool :=
  let w := single.nearest (d * 10 ^ k) single.quanta
  neighbour? single w (single.magnitude w * single.quanta) (10 ^ k) ≠ some d ||
    throughDouble k d = w

/-- Whether a gap of `2 ^ j` occurs at decimals of up to 26 bits on the grid `10 ^ k`. -/
def gapOccurs (k j : Nat) : Bool :=
  10 ^ k < 2 ^ 25 * gapQuanta j && (j = 0 || gapQuanta j < 2 ^ 3 * 10 ^ k)

/-- Whether all decimals of the grid that lie close to a midpoint are kept. -/
def keepsGrid (k : Nat) : Bool :=
  (List.range 254).all fun j => !gapOccurs k j || (nearMidpoints k j).all (keepsNeighbour k)

/-- The fine grids, below one quantum of ten units. -/
theorem keepsGrid_fine : (List.range' 104 45).all keepsGrid = true := by decide +kernel

/-- The coarse grids, from `10 ^ 12` on. -/
theorem keepsGrid_coarse : (List.range' 161 27).all keepsGrid = true := by decide +kernel

/-! ### The decimals found -/

section Near

variable {k j q d : Nat} (hq : q < 2 ^ 24) (hd : d < 2 ^ 26) (positive : 0 < d)
  (hs : j = 0 ∨ 2 ^ 23 ≤ q)
  (low : (2 * q + 1) * gapQuanta j ≤ 2 * (d * 10 ^ k) + margin j)
  (high : 2 * (d * 10 ^ k) ≤ (2 * q + 1) * gapQuanta j + margin j)

theorem gapQuanta_pos (j : Nat) : 0 < gapQuanta j :=
  Nat.mul_pos (Nat.two_pow_pos j) single.quanta_pos

theorem margin_lt (j : Nat) : margin j < gapQuanta j :=
  Nat.div_lt_self (gapQuanta_pos j) (by decide)

include low high in
/-- The remainder of a decimal close to a midpoint, counted from the lower end of the margin. -/
theorem remainder_le :
    (2 * 10 ^ k * d + margin j + gapQuanta j) % (2 * gapQuanta j) ≤ 2 * margin j := by
  have half := margin_lt j
  have twice : 2 * (d * 10 ^ k) = 2 * 10 ^ k * d := by ring
  have odd : (2 * q + 1) * gapQuanta j = 2 * q * gapQuanta j + gapQuanta j := by ring
  have round : 2 * gapQuanta j * (q + 1) = 2 * q * gapQuanta j + 2 * gapQuanta j := by ring
  rw [twice, odd] at low high
  have split : 2 * 10 ^ k * d + margin j + gapQuanta j = 2 * gapQuanta j * (q + 1) +
      (2 * 10 ^ k * d + margin j - (2 * q * gapQuanta j + gapQuanta j)) := by omega
  rw [split, Nat.mul_add_mod, Nat.mod_eq_of_lt (by omega)]
  omega

include hq hs low high hd

/-- The decimals that the search covers. -/
theorem search_range : (if j = 0 then 0 else 2 ^ 24 * gapQuanta j / (2 * 10 ^ k)) ≤ d ∧
    d ≤ min ((2 ^ 25 * gapQuanta j + margin j) / (2 * 10 ^ k)) (2 ^ 26 - 1) := by
  have ten : 0 < 2 * 10 ^ k := Nat.mul_pos (by decide) (Nat.pow_pos (by decide))
  have small := margin_lt j
  have twice : 2 * (d * 10 ^ k) = d * (2 * 10 ^ k) := by ring
  have odd : (2 * q + 1) * gapQuanta j = 2 * q * gapQuanta j + gapQuanta j := by ring
  rw [twice, odd] at low high
  constructor
  · split
    · exact Nat.zero_le d
    · rename_i hj
      have least := Nat.mul_le_mul_right (gapQuanta j)
        (show 2 ^ 24 ≤ 2 * q by have := hs.resolve_left hj; omega)
      refine Nat.le_of_lt_succ ((Nat.div_lt_iff_lt_mul ten).mpr ?_)
      rw [Nat.succ_mul]
      omega
  · refine Nat.le_min.mpr ⟨(Nat.le_div_iff_mul_le ten).mpr ?_, by omega⟩
    have most := Nat.mul_le_mul_right (gapQuanta j) (show 2 * q + 1 ≤ 2 ^ 25 by omega)
    omega

/-- The search for digits covers every decimal close to a midpoint. -/
theorem mem_nearMidpoints : d ∈ nearMidpoints k j := by
  obtain ⟨first_le, le_last⟩ := search_range hq hd hs low high
  have rest := remainder_le low high
  have period : 0 < 2 * gapQuanta j := Nat.mul_pos (by decide) (gapQuanta_pos j)
  unfold nearMidpoints
  simp only
  generalize (if j = 0 then 0 else 2 ^ 24 * gapQuanta j / (2 * 10 ^ k)) = first at *
  generalize min ((2 ^ 25 * gapQuanta j + margin j) / (2 * 10 ^ k)) (2 ^ 26 - 1) = last at *
  rw [if_neg (by omega), List.mem_filterMap]
  have place : first + (d - first) = d := by omega
  refine ⟨d - first, mem_residues 100 (Nat.mod_lt _ period) (Nat.mod_lt _ period) (by omega) ?_, ?_⟩
  · rw [Nat.add_mod_mod, Nat.add_mod, Nat.mod_mul_mod, ← Nat.add_mod]
    have line : 2 * 10 ^ k * (d - first) + (2 * 10 ^ k * first + margin j + gapQuanta j) =
        2 * 10 ^ k * d + margin j + gapQuanta j := by
      rw [← Nat.add_assoc, ← Nat.add_assoc, ← Nat.mul_add, Nat.add_comm _ first, place]
    rw [line]
    exact rest
  · rw [place, if_pos rest]

include positive

theorem gapOccurs_of_near : gapOccurs k j = true := by
  have small := margin_lt j
  have ten : 10 ^ k ≤ d * 10 ^ k := Nat.le_mul_of_pos_left _ positive
  have most := Nat.mul_le_mul_right (gapQuanta j) (show 2 * q + 1 + 1 ≤ 2 ^ 25 by omega)
  rw [Nat.add_mul _ 1, Nat.one_mul] at most
  unfold gapOccurs
  rw [Bool.and_eq_true, Bool.or_eq_true, decide_eq_true_eq, decide_eq_true_eq, decide_eq_true_eq]
  refine ⟨by omega, ?_⟩
  rcases hs with zero | normal
  · exact .inl zero
  · right
    have least := Nat.mul_le_mul_right (gapQuanta j) (show 2 ^ 24 + 1 ≤ 2 * q + 1 by omega)
    have digits := Nat.mul_lt_mul_of_pos_right hd (show 0 < 10 ^ k from Nat.pow_pos (by decide))
    rw [Nat.add_mul, Nat.one_mul] at least
    omega

/-- A decimal close to a midpoint on one of the grids in use is kept. -/
theorem keepsNeighbour_of_near (hj : j < 254)
    (hk : (104 ≤ k ∧ k < 149) ∨ (161 ≤ k ∧ k < 188)) : keepsNeighbour k d = true := by
  have grid : keepsGrid k = true := by
    rcases hk with ⟨low, high⟩ | ⟨low, high⟩
    · exact List.all_eq_true.mp keepsGrid_fine k (List.mem_range'_1.mpr ⟨low, by omega⟩)
    · exact List.all_eq_true.mp keepsGrid_coarse k (List.mem_range'_1.mpr ⟨low, by omega⟩)
  have gap := List.all_eq_true.mp grid j (List.mem_range.mpr hj)
  rw [gapOccurs_of_near hq hd positive hs low high, Bool.not_true, Bool.false_or] at gap
  exact List.all_eq_true.mp gap d (mem_nearMidpoints hq hd hs low high)

end Near

end Decimal

end DenseMedium
