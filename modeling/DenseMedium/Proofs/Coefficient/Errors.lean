import DenseMedium.Json.NumberLiteral
import DenseMedium.Proofs.Coefficient.Rounding
import Mathlib.Algebra.Order.Field.Basic
import Mathlib.Data.Rat.Cast.Order
import Mathlib.Tactic.Linarith
import Mathlib.Tactic.NormNum
import Mathlib.Tactic.Positivity
import Mathlib.Tactic.FieldSimp
import Mathlib.Tactic.GCongr

/-!
How far a number literal is read from its decimal.

A literal is computed with three roundings to double precision: its digits, a power of ten, and their
product or quotient.

* `Json.scale_close`: for the literals of documents the error is at most one part in `2 ^ 51`.
* `Json.scale_exact_mul`, `Json.scale_exact_tenth`: a product that a double holds is read exactly, and
  so is a multiple of ten divided by ten.
-/

namespace DenseMedium

namespace FloatFormat

variable {f : FloatFormat} {n d : Nat}

/-- The value of a word, in units. -/
def value (f : FloatFormat) (w : Nat) : ℚ := f.magnitude w / f.one

/-- In the range of the normal words a rounded value is within one part in `2 * hidden`. -/
theorem rounded_error (hd : 0 < d) (normal : f.hidden * d ≤ n) :
    |(f.magnitude (f.rounded n d) : ℚ) - n / d| ≤ n / d / (2 * f.hidden) := by
  obtain ⟨q, s, hword, hq, hs, above, below, -, lower⟩ := f.exists_rounded n hd
  have step : f.hidden * (d * 2 ^ s) ≤ n := by
    rcases lower with rfl | low
    · simpa using normal
    · exact low
  rw [hword, magnitude_shift hq hs]
  have hd' : (0 : ℚ) < d := by exact_mod_cast hd
  have hh : (0 : ℚ) < f.hidden := by exact_mod_cast f.hidden_pos
  have above' : 2 * (n : ℚ) ≤ (2 * q + 1) * (d * 2 ^ s) := by exact_mod_cast above
  have below' : 2 * ((q : ℚ) * (d * 2 ^ s)) ≤ 2 * n + d * 2 ^ s := by exact_mod_cast below
  have step' : (f.hidden : ℚ) * (d * 2 ^ s) ≤ n := by exact_mod_cast step
  push_cast
  have scaled : |(q : ℚ) * 2 ^ s * d - n| ≤ n / (2 * f.hidden) := by
    rw [le_div_iff₀ (by positivity)]
    have half : |(q : ℚ) * 2 ^ s * d - n| ≤ d * 2 ^ s / 2 := by
      rw [abs_le]
      constructor <;> linarith
    calc |(q : ℚ) * 2 ^ s * d - n| * (2 * f.hidden) ≤ d * 2 ^ s / 2 * (2 * f.hidden) := by gcongr
      _ = f.hidden * (d * 2 ^ s) := by ring
      _ ≤ n := step'
  have quotient : (q : ℚ) * 2 ^ s - n / d = ((q : ℚ) * 2 ^ s * d - n) / d := by field_simp
  rw [quotient, abs_div, abs_of_pos hd', div_le_iff₀ hd']
  calc |(q : ℚ) * 2 ^ s * d - n| ≤ n / (2 * f.hidden) := scaled
    _ = n / d / (2 * f.hidden) * d := by field_simp

/-- Whether `x` is within the factors `1 - t` and `1 + t` of `y`. -/
def Close (t x y : ℚ) : Prop := (1 - t) * y ≤ x ∧ x ≤ (1 + t) * y

/-- A quotient in the range of the normal words rounds to a finite word with a close value. -/
theorem nearest_close (hd : 0 < d) (normal : f.hidden * d ≤ n)
    (finite : 2 * n < f.magnitude f.infinity * d) :
    f.nearest n d < f.infinity ∧
      Close (1 / (2 * f.hidden)) (f.magnitude (f.nearest n d)) (n / d) := by
  have small := rounded_lt_infinity hd finite
  have word : f.nearest n d = f.rounded n d := by
    rw [nearest_eq_min]
    exact Nat.min_eq_right (Nat.le_of_lt small)
  obtain ⟨low, high⟩ := abs_le.mp (rounded_error hd normal)
  rw [word]
  refine ⟨small, ?_, ?_⟩
  · rw [sub_mul, one_mul, div_mul_eq_mul_div, one_mul]
    linarith
  · rw [add_mul, one_mul, div_mul_eq_mul_div, one_mul]
    linarith

theorem Close.pos {t x y : ℚ} (h : Close t x y) (ht : t < 1) (hy : 0 < y) : 0 < x :=
  lt_of_lt_of_le (mul_pos (by linarith) hy) h.1

/-- The relative error of one rounding to double precision. -/
def ulp : ℚ := 1 / 2 ^ 53

theorem Close.near {x y : ℚ} (h : Close ulp x y) (hy : 1 ≤ y) : 1 / 2 ≤ x ∧ x ≤ 2 * y := by
  unfold Close ulp at h
  exact ⟨by nlinarith [h.1], by nlinarith [h.2]⟩

/-- Three roundings, the last of a product. -/
theorem Close.mul {a b x y r : ℚ} (ha : Close ulp a x) (hb : Close ulp b y)
    (hr : Close ulp r (a * b)) (hx : 0 < x) (hy : 0 < y) : Close (1 / 2 ^ 51) r (x * y) := by
  have pa := ha.pos (by norm_num [ulp]) hx
  have pb := hb.pos (by norm_num [ulp]) hy
  unfold Close ulp at *
  constructor
  · have bound : ((1 - 1 / 2 ^ 53) * x) * ((1 - 1 / 2 ^ 53) * y) ≤ a * b :=
      mul_le_mul ha.1 hb.1 (mul_nonneg (by norm_num) hy.le) pa.le
    have := mul_pos hx hy
    nlinarith [hr.1]
  · have bound : a * b ≤ ((1 + 1 / 2 ^ 53) * x) * ((1 + 1 / 2 ^ 53) * y) :=
      mul_le_mul ha.2 hb.2 pb.le (mul_nonneg (by norm_num) hx.le)
    have := mul_pos hx hy
    nlinarith [hr.2]

/-- Three roundings, the last of a quotient. -/
theorem Close.div {a b x y r : ℚ} (ha : Close ulp a x) (hb : Close ulp b y)
    (hr : Close ulp r (a / b)) (hx : 0 < x) (hy : 0 < y) : Close (1 / 2 ^ 51) r (x / y) := by
  have pb := hb.pos (by norm_num [ulp]) hy
  have quotient := div_pos hx hy
  unfold Close ulp at *
  constructor
  · have bound : (1 - 1 / 2 ^ 53) / (1 + 1 / 2 ^ 53) * (x / y) ≤ a / b := by
      rw [div_mul_div_comm]
      exact div_le_div₀ (by linarith [ha.1, mul_pos (show (0 : ℚ) < 1 - 1 / 2 ^ 53 by norm_num) hx])
        ha.1 pb hb.2
    have factor : (1 - 1 / 2 ^ 51 : ℚ) ≤ (1 - 1 / 2 ^ 53) * ((1 - 1 / 2 ^ 53) / (1 + 1 / 2 ^ 53)) := by
      norm_num
    have := mul_le_mul_of_nonneg_right factor quotient.le
    nlinarith [hr.1]
  · have bound : a / b ≤ (1 + 1 / 2 ^ 53) / (1 - 1 / 2 ^ 53) * (x / y) := by
      rw [div_mul_div_comm]
      exact div_le_div₀ (mul_nonneg (by norm_num) hx.le) ha.2 (mul_pos (by norm_num) hy) hb.1
    have factor : (1 + 1 / 2 ^ 53 : ℚ) * ((1 + 1 / 2 ^ 53) / (1 - 1 / 2 ^ 53)) ≤ 1 + 1 / 2 ^ 51 := by
      norm_num
    have := mul_le_mul_of_nonneg_right factor quotient.le
    nlinarith [hr.2]

theorem Close.div_const {t x y c : ℚ} (h : Close t x y) (hc : 0 < c) : Close t (x / c) (y / c) := by
  unfold Close at *
  rw [← mul_div_assoc, ← mul_div_assoc]
  exact ⟨div_le_div_of_nonneg_right h.1 hc.le, div_le_div_of_nonneg_right h.2 hc.le⟩

/-! ### Double precision -/

theorem double_one_pos : (0 : ℚ) < double.one := by
  exact_mod_cast Nat.two_pow_pos double.unitExponent

/-- Quotients of units between these two are in the range of the normal words. -/
theorem double_nearest_close {x : ℚ} (hd : 0 < d) (value : (n : ℚ) / d / double.one = x)
    (low : 1 / 2 ^ 250 ≤ x) (high : x ≤ 2 ^ 250) :
    double.nearest n d < double.infinity ∧ Close ulp (double.value (double.nearest n d)) x := by
  have hd' : (0 : ℚ) < d := by exact_mod_cast hd
  have one_pos := double_one_pos
  have quotient : (n : ℚ) = x * double.one * d := by
    rw [← value]
    field_simp
  have normal : double.hidden * d ≤ n := by
    have units : (double.hidden : ℚ) ≤ 1 / 2 ^ 250 * double.one := by
      rw [div_mul_eq_mul_div, one_mul, le_div_iff₀ (by positivity)]
      exact_mod_cast (by decide +kernel : double.hidden * 2 ^ 250 ≤ double.one)
    have : (double.hidden : ℚ) * d ≤ n := by
      rw [quotient]
      have := mul_le_mul_of_nonneg_right low one_pos.le
      exact mul_le_mul_of_nonneg_right (units.trans this) hd'.le
    exact_mod_cast this
  have finite : 2 * n < double.magnitude double.infinity * d := by
    have units : 2 * (2 ^ 250 * (double.one : ℚ)) < double.magnitude double.infinity := by
      exact_mod_cast (by decide +kernel :
        2 * (2 ^ 250 * double.one) < double.magnitude double.infinity)
    have : 2 * (n : ℚ) < double.magnitude double.infinity * d := by
      rw [quotient, ← mul_assoc]
      refine mul_lt_mul_of_pos_right (lt_of_le_of_lt ?_ units) hd'
      exact mul_le_mul_of_nonneg_left (mul_le_mul_of_nonneg_right high one_pos.le) (by norm_num)
    exact_mod_cast this
  obtain ⟨small, close⟩ := nearest_close hd normal finite
  have error : (1 / (2 * (double.hidden : ℚ))) = ulp := by
    unfold ulp
    norm_num [double, hidden]
  rw [error] at close
  exact ⟨small, value ▸ close.div_const one_pos⟩

theorem ofNat_close (hn : 0 < n) (high : n ≤ 2 ^ 250) :
    double.ofNat n < double.infinity ∧ Close ulp (double.value (double.ofNat n)) n := by
  refine double_nearest_close (by decide) ?_ ?_ (by exact_mod_cast high)
  · have := double_one_pos
    push_cast
    field_simp
  · exact le_trans (by norm_num) (show (1 : ℚ) ≤ n by exact_mod_cast hn)

theorem mul_close {a b : Nat} (low : 1 / 2 ^ 250 ≤ double.value a * double.value b)
    (high : double.value a * double.value b ≤ 2 ^ 250) :
    double.mul a b < double.infinity ∧
      Close ulp (double.value (double.mul a b)) (double.value a * double.value b) := by
  refine double_nearest_close (Nat.two_pow_pos _) ?_ low high
  have := double_one_pos
  unfold value
  push_cast
  field_simp

theorem div_close {a b : Nat} (hb : 0 < double.value b)
    (low : 1 / 2 ^ 250 ≤ double.value a / double.value b)
    (high : double.value a / double.value b ≤ 2 ^ 250) :
    double.div a b < double.infinity ∧
      Close ulp (double.value (double.div a b)) (double.value a / double.value b) := by
  have one_pos := double_one_pos
  have positive : (0 : ℚ) < double.magnitude b := by
    unfold value at hb
    exact (div_pos_iff_of_pos_right one_pos).mp hb
  refine double_nearest_close (by exact_mod_cast positive) ?_ low high
  unfold value
  push_cast
  field_simp

/-! ### Exact results -/

/-- An integer that a double holds, in units, is not rounded. -/
theorem double_nearest_exact {m j : Nat} (hd : 0 < d) (hm : m < 2 ^ 53) (hj : j ≤ 1400)
    (units : n = m * 2 ^ j * d) :
    double.nearest n d < double.infinity ∧ double.magnitude (double.nearest n d) = m * 2 ^ j := by
  subst units
  have range : m < 2 * double.hidden := hm
  have finite : 2 * (m * 2 ^ j * d) < double.magnitude double.infinity * d := by
    rw [← Nat.mul_assoc]
    refine Nat.mul_lt_mul_of_pos_right ?_ hd
    calc 2 * (m * 2 ^ j) ≤ 2 * (2 ^ 53 * 2 ^ 1400) :=
          Nat.mul_le_mul_left 2 (Nat.mul_le_mul (Nat.le_of_lt hm)
            (Nat.pow_le_pow_right (by decide) hj))
      _ < double.magnitude double.infinity := by decide +kernel
  have small := rounded_lt_infinity hd finite
  rw [nearest_eq_min, Nat.min_eq_right (Nat.le_of_lt small)]
  exact ⟨small, magnitude_rounded_mul_pow hd range j⟩

theorem magnitude_ofNat (hn : n < 2 ^ 53) :
    double.magnitude (double.ofNat n) = n * double.one :=
  (double_nearest_exact (by decide) hn (by decide) (Nat.mul_one _).symm).2

end FloatFormat

/-! ### Literals -/

namespace Json

open FloatFormat

variable {n k : Nat}

theorem scale_mul (w : Nat) (hk : k ≤ powerLimit)
    (finite : FloatFormat.double.mul w (powerOfTen k) < FloatFormat.double.infinity) :
    scale w k = some (FloatFormat.double.mul w (powerOfTen k)) := by
  unfold scale
  rw [Int.natAbs_natCast, if_pos hk, if_pos (Int.natCast_nonneg k)]
  exact if_neg (Nat.ne_of_lt finite)

theorem scale_div (w : Nat) (hk : k ≤ powerLimit) (positive : 0 < k) :
    scale w (-(k : Int)) = some (FloatFormat.double.div w (powerOfTen k)) := by
  unfold scale
  rw [Int.natAbs_neg, Int.natAbs_natCast, if_pos hk, if_neg (by omega)]

section Digits

variable (hn : 0 < n) (small : n < 2 ^ 64) (hk : k ≤ 54)

include hk in
/-- The powers of ten in use lie far inside the range of doubles. -/
theorem power_close : Close ulp (FloatFormat.double.value (powerOfTen k)) (10 ^ k) ∧
    (1 : ℚ) ≤ 10 ^ k ∧ (10 : ℚ) ^ k ≤ 2 ^ 180 := by
  have high : 10 ^ k ≤ 2 ^ 180 :=
    Nat.le_trans (Nat.pow_le_pow_right (by decide) hk) (by decide)
  have close := (ofNat_close (Nat.pow_pos (by decide)) (Nat.le_trans high (by decide))).2
  push_cast at close
  exact ⟨close, one_le_pow₀ (by norm_num), by exact_mod_cast high⟩

include hn small in
theorem digits_close : Close ulp (FloatFormat.double.value (FloatFormat.double.ofNat n)) n ∧
    (1 : ℚ) ≤ n ∧ (n : ℚ) ≤ 2 ^ 64 :=
  ⟨(ofNat_close hn (Nat.le_trans (Nat.le_of_lt small) (by decide))).2,
    by exact_mod_cast hn, by exact_mod_cast Nat.le_of_lt small⟩

include hn small hk

theorem scale_close_mul : ∃ r, scale (FloatFormat.double.ofNat n) k = some r ∧
    r < FloatFormat.double.infinity ∧ Close (1 / 2 ^ 51) (FloatFormat.double.value r) (n * 10 ^ k) := by
  obtain ⟨power, power_ge, power_le⟩ := power_close hk
  obtain ⟨digits, digits_ge, digits_le⟩ := digits_close hn small
  obtain ⟨p_ge, p_le⟩ := power.near power_ge
  obtain ⟨a_ge, a_le⟩ := digits.near digits_ge
  obtain ⟨finite, close⟩ := mul_close (a := FloatFormat.double.ofNat n) (b := powerOfTen k)
    (le_trans (by norm_num) (mul_le_mul a_ge p_ge (by norm_num) (le_trans (by norm_num) a_ge)))
    (le_trans (mul_le_mul (a_le.trans (mul_le_mul_of_nonneg_left digits_le (by norm_num)))
      (p_le.trans (mul_le_mul_of_nonneg_left power_le (by norm_num)))
      (le_trans (by norm_num) p_ge) (by norm_num)) (by norm_num))
  exact ⟨_, scale_mul _ (Nat.le_trans hk (by decide)) finite, finite,
    digits.mul power close (by linarith) (by linarith)⟩

theorem scale_close_div (positive : 0 < k) :
    ∃ r, scale (FloatFormat.double.ofNat n) (-(k : Int)) = some r ∧ r < FloatFormat.double.infinity ∧
      Close (1 / 2 ^ 51) (FloatFormat.double.value r) (n / 10 ^ k) := by
  obtain ⟨power, power_ge, power_le⟩ := power_close hk
  obtain ⟨digits, digits_ge, digits_le⟩ := digits_close hn small
  obtain ⟨p_ge, p_le⟩ := power.near power_ge
  obtain ⟨a_ge, a_le⟩ := digits.near digits_ge
  have p_pos : 0 < FloatFormat.double.value (powerOfTen k) := lt_of_lt_of_le (by norm_num) p_ge
  have low : 1 / 2 ^ 250 ≤
      FloatFormat.double.value (FloatFormat.double.ofNat n) / FloatFormat.double.value (powerOfTen k) := by
    rw [le_div_iff₀ p_pos]
    exact le_trans (mul_le_mul_of_nonneg_left
      (p_le.trans (mul_le_mul_of_nonneg_left power_le (by norm_num))) (by norm_num))
      (le_trans (by norm_num) a_ge)
  have high :
      FloatFormat.double.value (FloatFormat.double.ofNat n) / FloatFormat.double.value (powerOfTen k) ≤ 2 ^ 250 := by
    rw [div_le_iff₀ p_pos]
    exact le_trans (a_le.trans (mul_le_mul_of_nonneg_left digits_le (by norm_num)))
      (le_trans (by norm_num) (mul_le_mul_of_nonneg_left p_ge (by norm_num)))
  obtain ⟨finite, close⟩ := div_close p_pos low high
  exact ⟨_, scale_div _ (Nat.le_trans hk (by decide)) positive, finite,
    digits.div power close (by linarith) (by linarith)⟩

end Digits

/-- Reading a decimal of at most 64 bits and a small exponent: within one part in `2 ^ 51`. -/
theorem scale_close {e : Int} (hn : 0 < n) (small : n < 2 ^ 64) (he : e.natAbs ≤ 54) :
    ∃ r, scale (FloatFormat.double.ofNat n) e = some r ∧ r < FloatFormat.double.infinity ∧
      Close (1 / 2 ^ 51) (FloatFormat.double.value r) (n * (10 : ℚ) ^ e) := by
  obtain ⟨k, rfl | rfl⟩ := e.eq_nat_or_neg
  · rw [Int.natAbs_natCast] at he
    rw [zpow_natCast]
    exact scale_close_mul hn small he
  · rw [Int.natAbs_neg, Int.natAbs_natCast] at he
    rcases Nat.eq_zero_or_pos k with rfl | positive
    · simpa using scale_close_mul hn small he
    · rw [zpow_neg, zpow_natCast, ← div_eq_mul_inv]
      exact scale_close_div hn small he positive

/-- A product that a double holds is read exactly. -/
theorem scale_exact_mul (hn : n * 5 ^ k < 2 ^ 53) (hk : k ≤ 22) :
    ∃ r, scale (FloatFormat.double.ofNat n) k = some r ∧ r < FloatFormat.double.infinity ∧
      FloatFormat.double.magnitude r = n * 10 ^ k * FloatFormat.double.one := by
  have digits := magnitude_ofNat (Nat.lt_of_le_of_lt (Nat.le_mul_of_pos_right n
    (Nat.pow_pos (by decide))) hn)
  have top : k + FloatFormat.double.unitExponent ≤ 1400 := by
    have : FloatFormat.double.unitExponent = 1074 := rfl
    omega
  have split :
      10 ^ k * FloatFormat.double.one = 5 ^ k * 2 ^ (k + FloatFormat.double.unitExponent) := by
    rw [show (10 : Nat) = 5 * 2 by rfl, Nat.mul_pow, Nat.pow_add, one, Nat.mul_assoc]
  have power : FloatFormat.double.magnitude (powerOfTen k) = 10 ^ k * FloatFormat.double.one := by
    have five : 5 ^ k < 2 ^ 53 :=
      Nat.lt_of_le_of_lt (Nat.pow_le_pow_right (by decide) hk) (by decide)
    have word := (double_nearest_exact (by decide) five top (Nat.mul_one _).symm).2
    rwa [← split] at word
  have shifted :
      FloatFormat.double.magnitude (FloatFormat.double.ofNat n) * FloatFormat.double.magnitude (powerOfTen k) =
        n * 5 ^ k * 2 ^ (k + FloatFormat.double.unitExponent) * FloatFormat.double.one := by
    rw [digits, power, Nat.mul_assoc n (5 ^ k), ← split]
    ring
  obtain ⟨finite, value⟩ := double_nearest_exact (Nat.two_pow_pos _) hn top shifted
  refine ⟨_, scale_mul _ (Nat.le_trans hk (by decide)) finite, finite, value.trans ?_⟩
  rw [Nat.mul_assoc, ← split, Nat.mul_assoc]

/-- A multiple of ten that a double holds is divided by ten exactly. -/
theorem scale_exact_tenth (hn : n * 10 < 2 ^ 53) :
    ∃ r, scale (FloatFormat.double.ofNat (n * 10)) (-1) = some r ∧ r < FloatFormat.double.infinity ∧
      FloatFormat.double.magnitude r = n * FloatFormat.double.one := by
  have digits := magnitude_ofNat hn
  have ten : FloatFormat.double.magnitude (powerOfTen 1) = 10 * FloatFormat.double.one := by
    rw [powerOfTen, Nat.pow_one]
    exact magnitude_ofNat (by decide)
  have shifted :
      FloatFormat.double.magnitude (FloatFormat.double.ofNat (n * 10)) * FloatFormat.double.one =
        n * 2 ^ FloatFormat.double.unitExponent * FloatFormat.double.magnitude (powerOfTen 1) := by
    rw [digits, ten, ← one]
    ring
  have positive : 0 < FloatFormat.double.magnitude (powerOfTen 1) := by
    rw [ten]
    exact Nat.mul_pos (by decide) (Nat.two_pow_pos _)
  obtain ⟨finite, value⟩ := double_nearest_exact positive (by omega) (by decide) shifted
  exact ⟨_, scale_div _ (by decide) (by decide), finite, value⟩

end Json

end DenseMedium
