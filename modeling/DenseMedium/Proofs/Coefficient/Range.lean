import DenseMedium.Json.NumberLiteral
import DenseMedium.Proofs.Coefficient.Rounding

/-!
Numbers that are read are finite doubles.

A significand stays below `2 ^ 64`, so its double is finite. A product beyond the range is refused, and
a quotient by a power of ten is smaller than what was divided. Hence `NumberParts.isFinite_value`: a
literal either has no value or one that a finite double holds.
-/

namespace DenseMedium

namespace FloatFormat

variable {f : FloatFormat} {n d v : Nat}

theorem one_pos (f : FloatFormat) : 0 < f.one := Nat.two_pow_pos _

/-- The values of the words at which a new power of two begins. -/
theorem magnitude_leading (f : FloatFormat) (s : Nat) :
    f.magnitude (s * f.hidden + f.hidden) = 2 ^ (f.fractionBits + s) := by
  have fits : f.hidden ≤ 2 * f.hidden := Nat.le_mul_of_pos_left _ Nat.two_pos
  rw [magnitude_shift fits (.inr (Nat.le_refl _)), hidden, Nat.pow_add]

/-- What is at least the value of a word rounds to at least that word. -/
theorem le_rounded (hd : 0 < d) (h : f.magnitude v * d ≤ n) : v ≤ f.rounded n d := by
  by_contra less
  have above := (f.rounded_bounds n hd).1
  have word : f.magnitude (f.rounded n d) < f.magnitude v :=
    magnitude_strictMono f (Nat.not_le.mp less)
  have next : f.magnitude (f.rounded n d + 1) ≤ f.magnitude v := magnitude_le (Nat.not_le.mp less)
  have below : f.midpoint (f.rounded n d) < 2 * f.magnitude v := by
    rw [midpoint_eq]
    omega
  have := Nat.mul_lt_mul_of_pos_right below hd
  rw [Nat.mul_assoc] at this
  omega

theorem nearest_lt_infinity (hd : 0 < d) (h : 2 * n < f.magnitude f.infinity * d) :
    f.nearest n d < f.infinity := by
  rw [nearest_eq_min]
  exact Nat.lt_of_le_of_lt (Nat.min_le_right _ _) (rounded_lt_infinity hd h)

theorem mul_le_infinity (f : FloatFormat) (a b : Nat) : f.mul a b ≤ f.infinity :=
  Nat.min_le_left _ _

/-- A quotient by a value of two or more stays inside the range. -/
theorem div_lt_infinity {a b : Nat} (ha : a < f.infinity) (hb : 2 * f.one ≤ f.magnitude b) :
    f.div a b < f.infinity := by
  have positive : 0 < 2 * f.one := Nat.mul_pos Nat.two_pos f.one_pos
  apply nearest_lt_infinity (Nat.lt_of_lt_of_le positive hb)
  calc 2 * (f.magnitude a * f.one) = f.magnitude a * (2 * f.one) := Nat.mul_left_comm _ _ _
    _ < f.magnitude f.infinity * (2 * f.one) :=
        Nat.mul_lt_mul_of_pos_right (magnitude_strictMono f ha) positive
    _ ≤ f.magnitude f.infinity * f.magnitude b := Nat.mul_le_mul_left _ hb

end FloatFormat

/-- Whether a double is neither infinite nor something else than a number. -/
def Double.IsFinite (d : Double) : Prop := d.word < FloatFormat.double.infinity

namespace Json

open FloatFormat

/-- The double that a number is taken for. -/
def Number.toDouble : Number → Double
  | .integer v => Double.ofInt v
  | .real d => d

variable {n k w r : Nat}

theorem magnitude_infinity : FloatFormat.double.magnitude FloatFormat.double.infinity =
    2 ^ (FloatFormat.double.fractionBits + 2046) :=
  FloatFormat.double.magnitude_leading 2046

/-- The word of two. -/
theorem magnitude_two : FloatFormat.double.magnitude (1023 * FloatFormat.double.hidden +
    FloatFormat.double.hidden) = 2 * FloatFormat.double.one := by
  have exponent : FloatFormat.double.fractionBits + 1023 = FloatFormat.double.unitExponent + 1 := by
    decide
  rw [magnitude_leading, exponent, Nat.pow_succ', FloatFormat.one]

/-- An integer of 64 bits lies inside the range. -/
theorem ofNat_lt_infinity (h : n < Size.bound) :
    FloatFormat.double.ofNat n < FloatFormat.double.infinity := by
  apply nearest_lt_infinity Nat.one_pos
  calc 2 * (n * FloatFormat.double.one) ≤ 2 * (Size.bound * FloatFormat.double.one) :=
        Nat.mul_le_mul_left 2 (Nat.mul_le_mul_right _ (Nat.le_of_lt h))
    _ = 2 ^ (64 + FloatFormat.double.unitExponent + 1) := by
        have bound : Size.bound = 2 ^ 64 := by decide
        rw [bound, FloatFormat.one, ← Nat.pow_add, ← Nat.pow_succ']
    _ < 2 ^ (FloatFormat.double.fractionBits + 2046) :=
        Nat.pow_lt_pow_right Nat.one_lt_two (by decide)
    _ = FloatFormat.double.magnitude FloatFormat.double.infinity * 1 := by
        rw [magnitude_infinity, Nat.mul_one]

/-- The double of a power of ten is at least two. -/
theorem two_le_powerOfTen (positive : 0 < k) :
    2 * FloatFormat.double.one ≤ FloatFormat.double.magnitude (powerOfTen k) := by
  have le : 2 ≤ 10 ^ k := Nat.le_trans (by decide) (Nat.pow_le_pow_right (by decide) positive)
  have word : 1023 * FloatFormat.double.hidden + FloatFormat.double.hidden ≤ powerOfTen k := by
    refine Nat.le_min.mpr ⟨by decide, le_rounded Nat.one_pos ?_⟩
    rw [magnitude_two, Nat.mul_one]
    exact Nat.mul_le_mul_right _ le
  exact magnitude_two ▸ magnitude_le word

/-- What is scaled by a power of ten, if that is in range at all, stays finite. -/
theorem scale_lt_infinity {e : Int} (hw : w < FloatFormat.double.infinity)
    (h : scale w e = some r) : r < FloatFormat.double.infinity := by
  fun_induction scale w e with
  | case1 w e small positive scaled infinite => cases h
  | case2 w e small positive scaled finite =>
    rw [← Option.some.inj h]
    exact Nat.lt_of_le_of_ne (mul_le_infinity _ _ _) finite
  | case3 w e small negative =>
    cases h
    exact div_lt_infinity hw (two_le_powerOfTen (by omega))
  | case4 e large =>
    cases h
    exact hw
  | case5 w e large nonzero positive => cases h
  | case6 w e large nonzero negative ih =>
    exact ih (div_lt_infinity hw (two_le_powerOfTen (by decide))) h

theorem gather_lt (ds : List Nat) (h : n < Size.bound) : (gather n ds).1 < Size.bound := by
  fun_induction gather n ds with
  | case1 => exact h
  | case2 n d ds fits ih => exact ih fits
  | case3 => exact h

namespace NumberParts

variable {p : NumberParts} {isNegative : Bool}

theorem significand_lt (p : NumberParts) : p.significand.1 < Size.bound :=
  gather_lt _ (gather_lt _ (by decide))

theorem realWord_lt_infinity (h : p.realWord = some r) : r < FloatFormat.double.infinity := by
  have digits := ofNat_lt_infinity p.significand_lt
  have zero : 0 < FloatFormat.double.infinity := by decide
  unfold realWord at h
  dsimp only at h
  split at h
  · exact scale_lt_infinity digits h
  · split at h
    · obtain ⟨-, same⟩ := Option.ite_none_right_eq_some.mp h
      cases same
      exact zero
    · exact scale_lt_infinity digits h

/-- The double that a literal stands for is finite. -/
theorem isFinite_value {x : Number} (h : p.value isNegative = some x) : x.toDouble.IsFinite := by
  have whole := ofNat_lt_infinity (gather_lt p.whole (n := 0) (by decide))
  unfold value at h
  dsimp only at h
  split at h
  · split at h
    · cases h
      exact whole
    · split at h
      · cases h
        change (Double.ofInt (-_)).word < _
        unfold Double.ofInt
        rwa [Int.natAbs_neg, Int.natAbs_natCast]
      · cases h
        exact whole
  · obtain ⟨w, word, rfl⟩ := Option.map_eq_some_iff.mp h
    exact realWord_lt_infinity word

end NumberParts

end Json

end DenseMedium
