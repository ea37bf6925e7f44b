import Mathlib.Algebra.Order.Ring.Nat

/-!
Small residues of an arithmetic progression.

Which of `s`, `a + s`, `2 * a + s`, …, `n * a + s` leave a remainder of at most `t` on division by
`m`? `residues` answers in about as many steps as the Euclidean algorithm takes on `m` and `a`: an
index with such a remainder belongs to a quotient with a small remainder in a progression modulo `a`,
and there are fewer quotients than indices. The answer may hold other indices as well;
`mem_residues` says that none is missing.
-/

namespace DenseMedium

/-- Indices up to `n` among which are those with `(a * x + s) % m ≤ t`, for `a` below `m`. -/
def residues : Nat → Nat → Nat → Nat → Nat → Nat → List Nat
  | 0, _, _, _, _, n => List.range (n + 1)
  | fuel + 1, a, s, m, t, n =>
      if a = 0 then (if s ≤ t then List.range (n + 1) else [])
      else if a ≤ t then
        (List.range ((a * n + s) / m + 1)).flatMap fun y =>
          List.range' ((m * y - s) / a) (min (t / a + 2) (n + 1 - (m * y - s) / a))
      else if m < 2 * a then residues fuel (m - a) ((t + m - s) % m) m t n
      else
        (residues fuel ((a - m % a) % a) (s % a) a t ((a * n + s) / m)).map fun y =>
          (m * y + (a - 1) - s) / a

variable {a s m t n x y v : Nat}

/-- Counting the remainders down from `t` is a progression with the opposite step. -/
theorem reflect_residue (ha : a < m) (hs : s < m) (h : (a * x + s) % m ≤ t) :
    ((m - a) * x + (t + m - s) % m) % m ≤ t := by
  have split := Nat.div_add_mod (a * x + s) m
  have quotient_le : (a * x + s) / m ≤ x := by
    refine Nat.le_of_lt_succ ((Nat.div_lt_iff_lt_mul (by omega)).mpr ?_)
    rw [Nat.succ_mul, Nat.mul_comm x]
    exact Nat.add_lt_add_of_le_of_lt (Nat.mul_le_mul_right x (Nat.le_of_lt ha)) hs
  have steps : (m - a) * x + a * x = m * x := by
    rw [← Nat.add_mul, Nat.sub_add_cancel (Nat.le_of_lt ha)]
  have rounds : m * (x + 1 - (a * x + s) / m) + m * ((a * x + s) / m) = m * x + m := by
    rw [← Nat.mul_add, Nat.sub_add_cancel (by omega), Nat.mul_succ]
  have reflected : (m - a) * x + (t + m - s) =
      t - (a * x + s) % m + m * (x + 1 - (a * x + s) / m) := by omega
  rw [Nat.add_mod_mod, reflected, Nat.add_mul_mod_self_left]
  exact Nat.le_trans (Nat.mod_le _ _) (Nat.sub_le _ _)

/-- The quotient of an index with a small remainder has a small remainder modulo the step. -/
theorem quotient_residue (hta : t < a) (hv : v ≤ t) (h : m * y + v = a * x + s) :
    ((a - m % a) % a * y + s % a) % a ≤ t := by
  have rest := Nat.mod_lt m (show 0 < a by omega)
  have split : (a - m % a) * y + m * y = a * y + a * (m / a) * y := by
    rw [← Nat.add_mul, ← Nat.add_mul]
    refine congrArg (· * y) ?_
    have := Nat.div_add_mod m a
    omega
  have shifted : (a - m % a) * y + s + a * x = v + a * (y + m / a * y) := by
    rw [Nat.mul_add, ← Nat.mul_assoc]
    omega
  have same : ((a - m % a) % a * y + s % a) % a = v % a := by
    rw [← Nat.add_mul_mod_self_left v a (y + m / a * y), ← shifted, Nat.add_mul_mod_self_left,
      Nat.add_mod, Nat.mod_mul_mod, Nat.mod_mod, ← Nat.add_mod]
  rw [same, Nat.mod_eq_of_lt (by omega)]
  exact hv

/-- The indices of one quotient are consecutive: they follow the first that could have it. -/
theorem index_of_quotient (pos : 0 < a) (hv : v ≤ t) (h : m * y + v = a * x + s) :
    (m * y - s) / a ≤ x ∧ x ≤ (m * y - s) / a + (t / a + 1) := by
  constructor
  · refine Nat.le_of_lt_succ ((Nat.div_lt_iff_lt_mul pos).mpr ?_)
    rw [Nat.succ_mul, Nat.mul_comm x]
    omega
  · have bound : x * a ≤ m * y - s + t := by
      rw [Nat.mul_comm]
      omega
    have step := (Nat.le_div_iff_mul_le pos).mpr bound
    have carry : (m * y - s + t) / a ≤ (m * y - s) / a + t / a + 1 := by
      rw [Nat.add_div pos]
      split <;> omega
    omega

theorem mem_residues : ∀ (fuel : Nat) {a s m t n x : Nat}, a < m → s < m → x ≤ n →
    (a * x + s) % m ≤ t → x ∈ residues fuel a s m t n
  | 0, _, _, _, _, _, _, _, _, hx, _ => List.mem_range.mpr (Nat.lt_succ_of_le hx)
  | fuel + 1, a, s, m, t, n, x, ha, hs, hx, h => by
      have split := Nat.div_add_mod (a * x + s) m
      have quotient_le : (a * x + s) / m ≤ (a * n + s) / m :=
        Nat.div_le_div_right (Nat.add_le_add_right (Nat.mul_le_mul_left a hx) s)
      unfold residues
      by_cases zero : a = 0
      · rw [if_pos zero]
        rw [zero, Nat.zero_mul, Nat.zero_add, Nat.mod_eq_of_lt hs] at h
        rw [if_pos h]
        exact List.mem_range.mpr (Nat.lt_succ_of_le hx)
      · rw [if_neg zero]
        have pos : 0 < a := Nat.pos_of_ne_zero zero
        by_cases wide : a ≤ t
        · rw [if_pos wide, List.mem_flatMap]
          refine ⟨(a * x + s) / m, List.mem_range.mpr (Nat.lt_succ_of_le quotient_le), ?_⟩
          obtain ⟨first, last⟩ := index_of_quotient pos h split
          rw [List.mem_range'_1]
          omega
        · rw [if_neg wide]
          by_cases half : m < 2 * a
          · rw [if_pos half]
            exact mem_residues fuel (by omega) (Nat.mod_lt _ (by omega)) hx
              (reflect_residue ha hs h)
          · rw [if_neg half, List.mem_map]
            refine ⟨(a * x + s) / m, mem_residues fuel (Nat.mod_lt _ pos) (Nat.mod_lt _ pos)
              quotient_le (quotient_residue (by omega) h split), ?_⟩
            refine Nat.div_eq_of_lt_le ?_ ?_
            · rw [Nat.mul_comm]
              omega
            · rw [Nat.add_mul, Nat.one_mul, Nat.mul_comm x]
              omega

end DenseMedium
