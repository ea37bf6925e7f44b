import DenseMedium.Proofs.Coefficient.Finite
import DenseMedium.Proofs.Coefficient.Range

/-!
Uniform coefficients.

A word of random bits keeps its upper 24, and a significand has room for them. So the coefficient is
not rounded: `Single.isUniform_ofRandom` gives its exact value, for the least and the greatest word
alike.
-/

namespace DenseMedium

namespace Single

/-- Whether `c` is exactly the number that the upper 24 bits of `w` are over `2 ^ 24`, with the sign
of `+0.0`. -/
structure IsUniform (w : UInt32) (c : Single) : Prop where
  exact_value : c.units * 2 ^ 24 = (w >>> 8).toNat * FloatFormat.single.one
  positive : c.isNegative = false
  least : 0 ≤ c.units
  below : c.units < FloatFormat.single.one
  finite : c.isFinite = true

variable {v w : Nat}

theorem isNegative_ofWord_false (h : w < 2147483648) : (ofWord false w).isNegative = false := by
  unfold ofWord isNegative
  rw [if_neg Bool.false_ne_true, UInt32.toNat_ofNat_of_lt' (by rw [UInt32.size]; omega)]
  exact decide_eq_false (Nat.not_le.mpr h)

theorem units_ofWord_false (h : w < 2147483648) :
    (ofWord false w).units = FloatFormat.single.magnitude w := by
  unfold units
  rw [isNegative_ofWord_false h, word_ofWord false h, if_neg Bool.false_ne_true]

/-- A number of 24 bits over `2 ^ 24`, in units. -/
theorem fraction_eq (v : Nat) :
    v * FloatFormat.single.one = v * 2 ^ 125 * 2 ^ 24 := by
  rw [Nat.mul_assoc, ← Nat.pow_add]
  rfl

theorem fraction_lt_infinity (h : v < 2 ^ 24) :
    2 * (v * FloatFormat.single.one) <
      FloatFormat.single.magnitude FloatFormat.single.infinity * 2 ^ 24 := by
  have top : FloatFormat.single.magnitude FloatFormat.single.infinity =
      2 ^ (FloatFormat.single.fractionBits + 254) := FloatFormat.single.magnitude_leading 254
  rw [top, fraction_eq, ← Nat.mul_assoc]
  refine Nat.mul_lt_mul_of_pos_right ?_ (Nat.two_pow_pos 24)
  calc 2 * (v * 2 ^ 125) < 2 * (2 ^ 24 * 2 ^ 125) :=
        Nat.mul_lt_mul_of_pos_left (Nat.mul_lt_mul_of_pos_right h (Nat.two_pow_pos 125)) Nat.two_pos
    _ = 2 ^ 150 := by rw [← Nat.pow_add, ← Nat.pow_succ']
    _ < 2 ^ (FloatFormat.single.fractionBits + 254) :=
        Nat.pow_lt_pow_right Nat.one_lt_two (by decide)

/-- A number of 24 bits over `2 ^ 24` is not rounded. -/
theorem magnitude_fraction (h : v < 2 ^ 24) :
    FloatFormat.single.nearest (v * FloatFormat.single.one) (2 ^ 24) < FloatFormat.single.infinity ∧
      FloatFormat.single.magnitude
        (FloatFormat.single.nearest (v * FloatFormat.single.one) (2 ^ 24)) = v * 2 ^ 125 := by
  have finite := FloatFormat.nearest_lt_infinity (Nat.two_pow_pos 24) (fraction_lt_infinity h)
  refine ⟨finite, ?_⟩
  have word : FloatFormat.single.nearest (v * FloatFormat.single.one) (2 ^ 24) =
      FloatFormat.single.rounded (v * FloatFormat.single.one) (2 ^ 24) := by
    rw [FloatFormat.nearest_eq_min] at finite ⊢
    omega
  rw [word, fraction_eq]
  exact FloatFormat.magnitude_rounded_mul_pow (Nat.two_pow_pos 24) h 125

theorem toNat_shiftRight_eight (w : UInt32) : (w >>> 8).toNat = w.toNat / 256 := by
  rw [UInt32.toNat_shiftRight]
  exact Nat.shiftRight_eq_div_pow _ _

/-- The coefficient of a word is the exact fraction, whatever the word. -/
theorem isUniform_ofRandom (w : UInt32) : IsUniform w (ofRandom w) := by
  have small : w.toNat / 256 < 2 ^ 24 := by
    have := w.toNat_lt
    omega
  obtain ⟨finite, value⟩ := magnitude_fraction small
  have word : FloatFormat.single.nearest (w.toNat / 256 * FloatFormat.single.one) (2 ^ 24) <
      2147483648 := Nat.lt_trans finite (by decide)
  have units : (ofRandom w).units = (w.toNat / 256 * 2 ^ 125 : Nat) := by
    rw [← value]
    exact units_ofWord_false word
  refine ⟨?_, isNegative_ofWord_false word, ?_, ?_, ?_⟩
  · rw [units, toNat_shiftRight_eight]
    exact_mod_cast (fraction_eq _).symm
  · rw [units]
    exact Int.natCast_nonneg _
  · rw [units]
    refine Int.ofNat_lt.mpr ?_
    calc w.toNat / 256 * 2 ^ 125 < 2 ^ 24 * 2 ^ 125 :=
          Nat.mul_lt_mul_of_pos_right small (Nat.two_pow_pos 125)
      _ = FloatFormat.single.one := by rw [← Nat.pow_add]; rfl
  · have same : (ofRandom w).word = _ := word_ofWord false word
    unfold isFinite
    rw [same]
    exact decide_eq_true finite

end Single

end DenseMedium
