import DenseMedium.Proofs.Coefficient.Errors
import DenseMedium.Proofs.Coefficient.Midpoints
import DenseMedium.Proofs.Coefficient.Shortest
import Mathlib.Tactic.IntervalCases

/-!
The shortest decimal of a single-precision word, read through double precision.

A decimal is read with an error of one part in `2 ^ 51` and then rounded to single precision. That
gives the word back when the decimal keeps a small distance to the midpoints around the word
(`reads_of_apart`). The decimals that do not are short, so the search of `Midpoints` covers them.
`shortest_rereads` puts the two together: it holds of every finite word and of both ways in which the
decimal may be written, with an exponent or with its zeros and a point.
-/

namespace DenseMedium

namespace Decimal

open FloatFormat

variable {v w d k r : Nat} {e : Int}

/-- Whether reading the digits `d` with the exponent `e` as a double, and that as a single, yields
the word `w`. -/
def ReadsThrough (w d : Nat) (e : Int) : Prop :=
  ∃ r, Json.scale (double.ofNat d) e = some r ∧ double.convert single r = w

/-- What makes a decimal safe to write for a word: it is small, and both of its spellings are read to
the word. -/
structure Rereads (w : Nat) (s : Decimal) : Prop where
  /-- Zero is written without an exponent. -/
  zero : s.digits = 0 → s.exponent = 0
  digits_lt : s.digits < 10 ^ 9
  exponent_ge : -46 ≤ s.exponent
  exponent_le : s.exponent ≤ 38
  reads : ReadsThrough w s.digits s.exponent
  /-- An integer is written with its zeros and one digit after the point. -/
  reads_integer (p : Nat) (hp : s.exponent = p) (small : s.digits * 10 ^ p < 10 ^ 13) :
    ReadsThrough w (s.digits * 10 ^ p * 10) (-1)

/-! ### From a double to the word -/

/-- A quantum is a single unit over a power of ten. -/
theorem value_quanta (d k : Nat) : (d : ℚ) * 10 ^ ((k : Int) - single.unitExponent) *
    (single.one * single.quanta) = d * 10 ^ k := by
  have quanta : (single.one : ℚ) * single.quanta = 10 ^ single.unitExponent := by
    rw [FloatFormat.one, quanta]
    push_cast
    rw [← mul_pow]
    norm_num
  rw [quanta, zpow_sub₀ (by norm_num), zpow_natCast, zpow_natCast, mul_assoc,
    div_mul_cancel₀ _ (by positivity)]

/-- A double close to a decimal between two midpoints rounds to the word between them. -/
theorem convert_of_close (hw : v + 1 = w) (finite : w < single.infinity)
    (close : Close (1 / 2 ^ 51) (double.value r) (d * 10 ^ ((k : Int) - single.unitExponent)))
    (low : 2 ^ 51 * (single.midpoint v * single.quanta) + 2 * (d * 10 ^ k) <
      2 ^ 51 * (2 * (d * 10 ^ k)))
    (high : (2 ^ 51 + 1) * (2 * (d * 10 ^ k)) < 2 ^ 51 * (single.midpoint w * single.quanta)) :
    double.convert single r = w := by
  have one_pos := double_one_pos
  have quanta_pos : (0 : ℚ) < single.quanta := by exact_mod_cast single.quanta_pos
  have single_pos : (0 : ℚ) < single.one := by exact_mod_cast Nat.two_pow_pos _
  have units := value_quanta d k
  generalize (d : ℚ) * 10 ^ ((k : Int) - single.unitExponent) = x at close units
  have double_units : (double.magnitude r : ℚ) = double.value r * double.one := by
    rw [value, div_mul_cancel₀ _ one_pos.ne']
  obtain ⟨above, below⟩ := close
  have above' := mul_le_mul_of_nonneg_right above (mul_pos single_pos quanta_pos).le
  have below' := mul_le_mul_of_nonneg_right below (mul_pos single_pos quanta_pos).le
  rw [mul_assoc, units] at above' below'
  have low' : 2 ^ 51 * ((single.midpoint v : ℚ) * single.quanta) + 2 * (d * 10 ^ k) <
      2 ^ 51 * (2 * (d * 10 ^ k)) := by exact_mod_cast low
  have high' : (2 ^ 51 + 1) * (2 * ((d : ℚ) * 10 ^ k)) <
      2 ^ 51 * (single.midpoint w * single.quanta) := by exact_mod_cast high
  refine nearest_eq_of_between (Nat.two_pow_pos _) (Nat.le_of_lt finite) (fun u hu => ?_) ?_
  · rw [show u = v by omega]
    have apart : (single.midpoint v : ℚ) * single.quanta <
        2 * (double.value r * single.one) * single.quanta := by linarith
    have bound := mul_lt_mul_of_pos_right (lt_of_mul_lt_mul_right apart quanta_pos.le) one_pos
    have : (single.midpoint v : ℚ) * double.one < 2 * (double.magnitude r * single.one) := by
      rw [double_units]
      linarith
    exact_mod_cast this
  · have apart : 2 * (double.value r * single.one) * single.quanta <
        (single.midpoint w : ℚ) * single.quanta := by linarith
    have bound := mul_lt_mul_of_pos_right (lt_of_mul_lt_mul_right apart quanta_pos.le) one_pos
    have : 2 * ((double.magnitude r : ℚ) * single.one) < single.midpoint w * double.one := by
      rw [double_units]
      linarith
    exact_mod_cast this

/-- A double that is exactly a number of quanta rounds like them. -/
theorem convert_of_exact {c : Nat}
    (units : double.magnitude r * single.one * single.quanta = c * double.one) :
    double.convert single r = single.nearest c single.quanta := by
  calc double.convert single r
      = single.nearest (double.magnitude r * single.one * single.quanta)
          (double.one * single.quanta) := (single.nearest_mul_right _ _ single.quanta_pos).symm
    _ = single.nearest (c * double.one) (single.quanta * double.one) := by
        rw [units, Nat.mul_comm double.one]
    _ = single.nearest c single.quanta := single.nearest_mul_right _ _ (Nat.two_pow_pos _)

/-- Integers as numbers of quanta. -/
theorem one_mul_quanta (p : Nat) : 10 ^ (p + single.unitExponent) =
    10 ^ p * (single.one * single.quanta) := by
  rw [Nat.pow_add, FloatFormat.one, quanta, ← Nat.mul_pow]

theorem convert_of_integer {p : Nat} (units : double.magnitude r = d * 10 ^ p * double.one) :
    double.convert single r = single.nearest (d * 10 ^ (p + single.unitExponent)) single.quanta := by
  refine convert_of_exact ?_
  rw [units, one_mul_quanta]
  ring

/-- Reading the digits of a grid is reading through double precision. -/
theorem throughDouble_eq (grid : k < 188) (read : Json.scale (double.ofNat d)
    (k - single.unitExponent) = some r) : throughDouble k d = double.convert single r := by
  have unit : single.unitExponent = 149 := rfl
  unfold Json.scale Json.powerLimit at read
  rw [if_pos (by omega)] at read
  unfold throughDouble
  split at read
  · rename_i positive
    rw [if_pos (by omega)]
    rw [show ((k : Int) - single.unitExponent).natAbs = k - single.unitExponent by omega] at read
    generalize double.mul _ _ = scaled at read ⊢
    dsimp only at read
    split at read
    · contradiction
    · cases read
      rfl
  · rename_i negative
    cases read
    rw [if_neg (by omega),
      show ((k : Int) - single.unitExponent).natAbs = single.unitExponent - k by omega]

/-- A short decimal near the midpoint around some word is read to its word. -/
theorem reads_of_near {u : Nat} (hu : u < single.infinity) (hd : 0 < d) (digits : d < 2 ^ 26)
    (grid : (104 ≤ k ∧ k < 149) ∨ (161 ≤ k ∧ k < 188))
    (found : neighbour? single w (single.magnitude w * single.quanta) (10 ^ k) = some d)
    (reads : single.nearest (d * 10 ^ k) single.quanta = w)
    (low : single.midpoint u * single.quanta ≤ 2 * (d * 10 ^ k) + margin (u / single.hidden - 1))
    (high : 2 * (d * 10 ^ k) ≤ single.midpoint u * single.quanta + margin (u / single.hidden - 1)) :
    ReadsThrough w d (k - single.unitExponent) := by
  obtain ⟨q, hword, hq, hs⟩ := single.exists_shift u
  have bound : u / single.hidden < 255 := Nat.div_lt_of_lt_mul (by rwa [Nat.mul_comm])
  have midpoint : single.midpoint u * single.quanta =
      (2 * q + 1) * gapQuanta (u / single.hidden - 1) := by
    have value := magnitude_shift (Nat.le_of_lt hq) hs
    rw [← hword] at value
    rw [FloatFormat.midpoint, value, gap, gapQuanta]
    ring
  rw [midpoint] at low high
  have keeps := keepsNeighbour_of_near hq digits hd hs low high (by omega) grid
  have through : throughDouble k d = w := by
    unfold keepsNeighbour at keeps
    simpa [reads, found] using keeps
  obtain ⟨r, read⟩ : ∃ r, Json.scale (double.ofNat d) (k - single.unitExponent) = some r := by
    have unit : single.unitExponent = 149 := rfl
    obtain ⟨r, read, -⟩ := Json.scale_close (e := k - single.unitExponent) hd
      (Nat.lt_trans digits (by decide)) (by omega)
    exact ⟨r, read⟩
  exact ⟨r, read, (throughDouble_eq (by omega) read).symm.trans through⟩

/-! ### Positive words -/

section Positive

variable (hw : v + 1 = w) (finite : w < single.infinity)

include hw finite

/-- A decimal with at most 26 significant bits between the midpoints around a word, by a small part
of the smaller gap, is read to the word. -/
theorem reads_of_apart (hd : 0 < d) (small : d < 2 ^ 64)
    (exponent : ((k : Int) - single.unitExponent).natAbs ≤ 54)
    (low : 2 ^ 25 * (single.midpoint v * single.quanta) + single.gap v * single.quanta ≤
      2 ^ 25 * (2 * (d * 10 ^ k)))
    (high : 2 ^ 25 * (2 * (d * 10 ^ k)) + single.gap v * single.quanta ≤
      2 ^ 25 * (single.midpoint w * single.quanta)) :
    ReadsThrough w d (k - single.unitExponent) := by
  obtain ⟨r, read, -, close⟩ := Json.scale_close hd small exponent
  refine ⟨r, read, convert_of_close hw finite close ?_ ?_⟩ <;>
  · have gap : 0 < single.gap v * single.quanta := Nat.mul_pos (single.gap_pos v) single.quanta_pos
    have top : single.midpoint w * single.quanta < 2 ^ 26 * (single.gap v * single.quanta) := by
      have gaps : single.gap w ≤ 2 * single.gap v := hw ▸ single.gap_succ_le v
      calc single.midpoint w * single.quanta
          < 2 ^ 25 * single.gap w * single.quanta :=
            Nat.mul_lt_mul_of_pos_right (single.midpoint_lt w) single.quanta_pos
        _ ≤ 2 ^ 25 * (2 * single.gap v) * single.quanta :=
            Nat.mul_le_mul_right _ (Nat.mul_le_mul_left _ gaps)
        _ = 2 ^ 26 * (single.gap v * single.quanta) := by ring
    omega

/-- A settled decimal is read to its word. -/
theorem reads_of_settled (hd : 0 < d) (small : d < 2 ^ 64)
    (exponent : ((k : Int) - single.unitExponent).natAbs ≤ 54)
    (settled : Settled single v w (d * 10 ^ k)) :
    ReadsThrough w d (k - single.unitExponent) := by
  obtain ⟨above, below⟩ := settled
  have low := congrArg (· * single.quanta) (single.midpoint_add_gap v)
  have gaps := Nat.mul_le_mul_right single.quanta (gap_le (f := single) (show v ≤ w by omega))
  have high : single.midpoint w * single.quanta =
      2 * (single.magnitude w * single.quanta) + single.gap w * single.quanta := by
    rw [FloatFormat.midpoint, Nat.add_mul, Nat.mul_assoc]
  simp only [hw, Nat.add_mul, Nat.mul_assoc] at low
  exact reads_of_apart hw finite hd small exponent (by omega) (by omega)

/-- A neighbour on a coarse grid is read to its word. -/
theorem reads_of_coarse (hd : 0 < d) (digits : d < 2 ^ 26) (grid : 104 ≤ k ∧ k < 188)
    (found : neighbour? single w (single.magnitude w * single.quanta) (10 ^ k) = some d)
    (reads : single.nearest (d * 10 ^ k) single.quanta = w) :
    ReadsThrough w d (k - single.unitExponent) := by
  have unit : single.unitExponent = 149 := rfl
  by_cases exactly : 149 ≤ k ∧ k < 161
  · -- The product is small enough to be exact.
    obtain ⟨p, rfl⟩ : ∃ p, k = p + single.unitExponent := ⟨k - 149, by omega⟩
    have small : d * 5 ^ p < 2 ^ 53 := by
      calc d * 5 ^ p < 2 ^ 26 * 5 ^ p := Nat.mul_lt_mul_of_pos_right digits (Nat.pow_pos (by decide))
        _ ≤ 2 ^ 26 * 5 ^ 11 := Nat.mul_le_mul_left _ (Nat.pow_le_pow_right (by decide) (by omega))
        _ < 2 ^ 53 := by decide
    obtain ⟨r, read, -, units⟩ := Json.scale_exact_mul small (by omega)
    refine ⟨r, ?_, (convert_of_integer units).trans reads⟩
    rwa [Nat.cast_add, add_sub_cancel_right]
  · have grid' : (104 ≤ k ∧ k < 149) ∨ (161 ≤ k ∧ k < 188) := by omega
    have far {u : Nat} :
        single.gap u * single.quanta < 2 ^ 25 * (margin (u / single.hidden - 1) + 1) := by
      unfold margin gapQuanta gap
      exact Nat.lt_mul_div_succ _ (by decide)
    obtain ⟨above, below⟩ := nearest_bounds single.quanta_pos reads finite
    have below := below v hw
    by_cases near_v : 2 * (d * 10 ^ k) ≤
        single.midpoint v * single.quanta + margin (v / single.hidden - 1)
    · exact reads_of_near (u := v) (by omega) hd digits grid' found reads (by omega) near_v
    · by_cases near_w : single.midpoint w * single.quanta ≤
          2 * (d * 10 ^ k) + margin (w / single.hidden - 1)
      · exact reads_of_near finite hd digits grid' found reads near_w (by omega)
      · have far_v := far (u := v)
        have far_w := far (u := w)
        have gaps := Nat.mul_le_mul_right single.quanta
          (gap_le (f := single) (show v ≤ w by omega))
        exact reads_of_apart hw finite hd (Nat.lt_trans digits (by decide)) (by omega)
          (by omega) (by omega)

omit hw finite in
/-- A grid that is not much finer than a gap is coarser than a unit's quanta. -/
theorem lt_of_gap_le {t j : Nat} (h : single.gap v * single.quanta ≤ t * 10 ^ k)
    (fine : t * 10 ^ j < single.quanta) : j < k := by
  by_contra below
  have gap := Nat.le_mul_of_pos_left single.quanta (single.gap_pos v)
  have step := Nat.mul_le_mul_left t
    (Nat.pow_le_pow_right (n := 10) (by decide) (Nat.not_lt.mp below))
  omega

omit hw in
/-- A decimal on too coarse a grid would be infinite. -/
theorem grid_lt (reads : single.nearest (d * 10 ^ k) single.quanta = w) (hd : 0 < d) : k < 188 := by
  by_contra coarse
  have above := (nearest_bounds single.quanta_pos reads finite).1
  have range := Nat.mul_le_mul_right single.quanta
    (midpoint_le (f := single) (Nat.le_of_lt finite))
  have step : 10 ^ 188 ≤ d * 10 ^ k := Nat.le_trans
    (Nat.pow_le_pow_right (by decide) (Nat.not_lt.mp coarse)) (Nat.le_mul_of_pos_left _ hd)
  have top : single.midpoint single.infinity * single.quanta < 2 * 10 ^ 188 := by decide +kernel
  omega

/-- The shortest decimal of a positive word. -/
theorem rereads_positive : Rereads w (shortest single w) := by
  have unit : single.unitExponent = 149 := rfl
  obtain ⟨d, k, short, hd, reads, fine, place⟩ := shortest_cases hw finite
  have digits : d < 10 ^ 9 :=
    Nat.lt_of_lt_of_le (digits_lt hw finite reads fine) (by decide)
  have least : 102 < k := lt_of_gap_le fine (by decide +kernel)
  have most : k < 188 := grid_lt finite reads hd
  rw [short]
  refine ⟨fun h => absurd h (Nat.pos_iff_ne_zero.mp hd), digits, by simp only; omega,
    by simp only; omega, ?_, fun p hp small => ?_⟩
  · rcases place with settled | ⟨coarse, found⟩
    · exact reads_of_settled hw finite hd (Nat.lt_trans digits (by decide)) (by omega) settled
    · have few : d < 2 ^ 26 := digits_lt hw finite reads coarse
      have low : 103 < k := lt_of_gap_le coarse (by decide +kernel)
      exact reads_of_coarse hw finite hd few ⟨low, most⟩ found reads
  · simp only at hp small
    obtain ⟨r, read, -, units⟩ := Json.scale_exact_tenth (n := d * 10 ^ p) (by omega)
    refine ⟨r, read, (convert_of_integer units).trans ?_⟩
    rwa [show p + single.unitExponent = k by omega]

end Positive

/-- The decimal of zero. -/
theorem rereads_zero : Rereads 0 (shortest single 0) where
  zero _ := by decide
  digits_lt := by decide
  exponent_ge := by decide
  exponent_le := by decide
  reads := ⟨0, by decide +kernel, by decide +kernel⟩
  reads_integer p hp _ := by
    rw [show p = 0 from (Int.ofNat_inj.mp hp).symm]
    exact ⟨0, by decide +kernel, by decide +kernel⟩

/-- The shortest decimal of every finite word is read to it. -/
theorem shortest_rereads (finite : w < single.infinity) : Rereads w (shortest single w) := by
  cases w with
  | zero => exact rereads_zero
  | succ v => exact rereads_positive rfl finite

end Decimal

end DenseMedium
