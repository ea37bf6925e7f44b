import DenseMedium.Medium.Voxel

/-!
Finite coefficients.

A finite coefficient is a number, and so is the sum of two, although it may be infinite
(`Single.isNaN_add`). Hence the extinction of a finite voxel is a number in every channel.
-/

namespace DenseMedium

namespace Single

variable {a b : Single} {w : Nat}

theorem word_ofWord (negative : Bool) (h : w < 2147483648) : (ofWord negative w).word = w := by
  unfold ofWord word
  cases negative with
  | false =>
    rw [if_neg Bool.false_ne_true, UInt32.toNat_ofNat_of_lt' (by rw [UInt32.size]; omega),
      Nat.mod_eq_of_lt h]
  | true =>
    rw [if_pos rfl, UInt32.toNat_ofNat_of_lt' (by rw [UInt32.size]; omega), Nat.add_mod_left,
      Nat.mod_eq_of_lt h]

/-- A word up to that of infinity stands for a number. -/
theorem isNaN_ofWord (negative : Bool) (h : w ≤ FloatFormat.single.infinity) :
    (ofWord negative w).isNaN = false := by
  have small : FloatFormat.single.infinity < 2147483648 := by decide
  unfold isNaN
  rw [word_ofWord negative (Nat.lt_of_le_of_lt h small)]
  exact decide_eq_false (Nat.not_lt.mpr h)

theorem isNaN_of_isFinite (h : a.isFinite = true) : a.isNaN = false :=
  decide_eq_false (Nat.not_lt.mpr (Nat.le_of_lt (of_decide_eq_true h)))

theorem isInfinite_of_isFinite (h : a.isFinite = true) : a.isInfinite = false :=
  decide_eq_false (Nat.ne_of_lt (of_decide_eq_true h))

/-- The sum of two finite coefficients may be infinite, but it is a number. -/
theorem isNaN_add (ha : a.isFinite = true) (hb : b.isFinite = true) :
    (a.add b).isNaN = false := by
  unfold add
  rw [isNaN_of_isFinite ha, isNaN_of_isFinite hb, isInfinite_of_isFinite ha,
    isInfinite_of_isFinite hb]
  simp only [Bool.or_self, Bool.and_self, Bool.false_eq_true, if_false]
  split
  · exact isNaN_ofWord _ (Nat.zero_le _)
  · exact isNaN_ofWord _ (Nat.min_le_left _ _)

end Single

theorem Rgb.isFinite_iff {c : Rgb} : c.isFinite = true ↔
    c.r.isFinite = true ∧ c.g.isFinite = true ∧ c.b.isFinite = true := by
  unfold isFinite
  rw [Bool.and_eq_true, Bool.and_eq_true, and_assoc]

theorem Voxel.isFinite_iff {v : Voxel} : v.isFinite = true ↔
    v.sigmaA.isFinite = true ∧ v.sigmaS.isFinite = true ∧ v.emission.isFinite = true := by
  unfold isFinite
  rw [Bool.and_eq_true, Bool.and_eq_true, and_assoc]

/-- The extinction of a finite voxel is a number in every channel. -/
theorem Voxel.isNaN_sigmaT {v : Voxel} (h : v.isFinite = true) :
    v.sigmaT.r.isNaN = false ∧ v.sigmaT.g.isNaN = false ∧ v.sigmaT.b.isNaN = false := by
  obtain ⟨ha, hs, -⟩ := isFinite_iff.mp h
  obtain ⟨har, hag, hab⟩ := Rgb.isFinite_iff.mp ha
  obtain ⟨hsr, hsg, hsb⟩ := Rgb.isFinite_iff.mp hs
  exact ⟨Single.isNaN_add har hsr, Single.isNaN_add hag hsg, Single.isNaN_add hab hsb⟩

end DenseMedium
