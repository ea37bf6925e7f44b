import DenseMedium.Coefficient.Format
import Mathlib.Tactic.Ring

/-!
Rounding to a binary format.

The values of the words grow by gaps that are powers of two (`magnitude_succ`). Twice a midpoint
between two neighbouring values is `midpoint`, and rounding is told by midpoints:

* `nearest_bounds`: what rounds to a finite word lies between its two midpoints, ends included.
* `nearest_eq_of_between`: what lies strictly between them rounds to it.
* `nearest_magnitude`: the value of a word rounds to the word.
* `nearest_mul_right`: only the quotient counts.
-/

namespace DenseMedium

/-- Half a unit of the quotient is the most that rounding moves. -/
theorem roundHalfEven_bounds (n : Nat) {d : Nat} (hd : 0 < d) :
    2 * n ≤ (2 * roundHalfEven n d + 1) * d ∧ 2 * (roundHalfEven n d * d) ≤ 2 * n + d := by
  have split := Nat.div_add_mod n d
  have rest := Nat.mod_lt n hd
  have up : 2 * ((n / d + 1) * d) = 2 * (d * (n / d)) + 2 * d := by ring
  have wide : (2 * (n / d) + 1) * d = 2 * (d * (n / d)) + d := by ring
  have wider : (2 * (n / d + 1) + 1) * d = 2 * (d * (n / d)) + 3 * d := by ring
  have low : 2 * (n / d * d) = 2 * (d * (n / d)) := by ring
  unfold roundHalfEven
  simp only
  split
  · omega
  · split
    · omega
    · split <;> omega

/-- Rounding chooses one of the two neighbours. -/
theorem roundHalfEven_cases (n d : Nat) :
    roundHalfEven n d = n / d ∨ roundHalfEven n d = n / d + 1 := by
  unfold roundHalfEven
  simp only
  split
  · exact .inl rfl
  · split
    · exact .inr rfl
    · split
      · exact .inl rfl
      · exact .inr rfl

/-- An exact quotient is not moved. -/
theorem roundHalfEven_mul (q : Nat) {d : Nat} (hd : 0 < d) : roundHalfEven (q * d) d = q := by
  unfold roundHalfEven
  rw [Nat.mul_mod_left, Nat.mul_div_cancel q hd, Nat.mul_zero, if_pos hd]

namespace FloatFormat

variable {f : FloatFormat} {w v n d q s : Nat}

theorem hidden_pos (f : FloatFormat) : 0 < f.hidden := Nat.two_pow_pos _

/-! ### Values of words -/

/-- From the value of a word to the value of the next. -/
def gap (f : FloatFormat) (w : Nat) : Nat := 2 ^ (w / f.hidden - 1)

/-- Twice the midpoint between the values of a word and the next. -/
def midpoint (f : FloatFormat) (w : Nat) : Nat := 2 * f.magnitude w + f.gap w

theorem gap_pos (f : FloatFormat) (w : Nat) : 0 < f.gap w := Nat.two_pow_pos _

/-- A word by its shift and its significand. -/
theorem magnitude_shift (hq : q ≤ 2 * f.hidden) (hs : s = 0 ∨ f.hidden ≤ q) :
    f.magnitude (s * f.hidden + q) = q * 2 ^ s := by
  have pos := f.hidden_pos
  have quotient : (s * f.hidden + q) / f.hidden = s + q / f.hidden := by
    rw [Nat.mul_comm, Nat.mul_add_div pos]
  have rest : (s * f.hidden + q) % f.hidden = q % f.hidden := by
    rw [Nat.mul_comm, Nat.mul_add_mod]
  unfold magnitude
  rw [quotient, rest]
  rcases Nat.lt_or_ge q f.hidden with below | above
  · have s0 : s = 0 := hs.resolve_right (Nat.not_le.mpr below)
    rw [s0, Nat.div_eq_of_lt below, if_pos rfl, Nat.zero_mul, Nat.zero_add, Nat.pow_zero,
      Nat.mul_one]
  · rcases Nat.lt_or_ge q (2 * f.hidden) with inside | top
    · have one : q / f.hidden = 1 := Nat.div_eq_of_lt_le (by omega) (by omega)
      have digit : q % f.hidden = q - f.hidden := by
        rw [Nat.mod_eq_sub_mod above, Nat.mod_eq_of_lt (by omega)]
      rw [one, digit, if_neg (Nat.succ_ne_zero s), Nat.add_sub_cancel,
        show f.hidden + (q - f.hidden) = q by omega]
    · have two : q = 2 * f.hidden := Nat.le_antisymm hq top
      rw [two, Nat.mul_div_cancel 2 pos, Nat.mul_mod_left, if_neg (Nat.succ_ne_zero (s + 1)),
        Nat.add_zero, show s + 2 - 1 = s + 1 by omega, Nat.pow_succ]
      ring

/-- The shift and the significand of a word. -/
theorem exists_shift (f : FloatFormat) (w : Nat) :
    ∃ q, w = (w / f.hidden - 1) * f.hidden + q ∧ q < 2 * f.hidden ∧
      (w / f.hidden - 1 = 0 ∨ f.hidden ≤ q) := by
  have pos := f.hidden_pos
  have split := Nat.div_add_mod w f.hidden
  have rest := Nat.mod_lt w pos
  rcases Nat.eq_zero_or_pos (w / f.hidden) with zero | positive
  · rw [zero, Nat.mul_zero] at split
    exact ⟨w, by rw [zero, Nat.zero_sub, Nat.zero_mul, Nat.zero_add], by omega, .inl (by omega)⟩
  · have one_le := Nat.mul_le_mul_left f.hidden positive
    have shifted : (w / f.hidden - 1) * f.hidden = f.hidden * (w / f.hidden) - f.hidden := by
      rw [Nat.mul_comm, Nat.mul_sub, Nat.mul_one]
    refine ⟨f.hidden + w % f.hidden, ?_, by omega, .inr (by omega)⟩
    rw [shifted]
    omega

theorem magnitude_succ (f : FloatFormat) (w : Nat) :
    f.magnitude (w + 1) = f.magnitude w + f.gap w := by
  obtain ⟨q, hw, hq, hs⟩ := f.exists_shift w
  have value := magnitude_shift (Nat.le_of_lt hq) hs
  have next := magnitude_shift (q := q + 1) (s := w / f.hidden - 1) (f := f) hq
    (hs.imp_right Nat.le_succ_of_le)
  rw [← hw] at value
  rw [← Nat.add_assoc, ← hw] at next
  rw [next, value, gap, Nat.succ_mul]

theorem magnitude_strictMono (f : FloatFormat) : StrictMono f.magnitude :=
  strictMono_nat_of_lt_succ fun w => by
    rw [magnitude_succ]
    exact Nat.lt_add_of_pos_right (f.gap_pos w)

theorem magnitude_le (h : w ≤ v) : f.magnitude w ≤ f.magnitude v :=
  f.magnitude_strictMono.monotone h

theorem magnitude_zero (f : FloatFormat) : f.magnitude 0 = 0 := by
  unfold magnitude
  rw [Nat.zero_div, if_pos rfl]

theorem midpoint_eq (f : FloatFormat) (w : Nat) :
    f.midpoint w = f.magnitude w + f.magnitude (w + 1) := by
  rw [midpoint, magnitude_succ]
  omega

theorem midpoint_le (h : w ≤ v) : f.midpoint w ≤ f.midpoint v := by
  rw [midpoint_eq, midpoint_eq]
  exact Nat.add_le_add (magnitude_le h) (magnitude_le (Nat.succ_le_succ h))

/-! ### Rounding without a greatest word -/

/-- The nearest word when the words go on beyond infinity. -/
def rounded (f : FloatFormat) (n d : Nat) : Nat :=
  f.excess n d * f.hidden + roundHalfEven n (d * 2 ^ f.excess n d)

theorem nearest_eq_min (f : FloatFormat) (n d : Nat) :
    f.nearest n d = min f.infinity (f.rounded n d) := rfl

/-- The range of a quotient by its excess. -/
theorem excess_bounds (f : FloatFormat) (n : Nat) (hd : 0 < d) :
    n < 2 * f.hidden * (d * 2 ^ f.excess n d) ∧
      (f.excess n d = 0 ∨ f.hidden * (d * 2 ^ f.excess n d) ≤ n) := by
  have upper : n / d < 2 * f.hidden * 2 ^ f.excess n d := by
    refine Nat.lt_of_lt_of_le Nat.lt_log2_self ?_
    unfold excess hidden
    rw [show 2 * 2 ^ f.fractionBits = 2 ^ (f.fractionBits + 1) by rw [Nat.pow_succ]; omega,
      ← Nat.pow_add]
    exact Nat.pow_le_pow_right (by decide) (by omega)
  constructor
  · rw [Nat.div_lt_iff_lt_mul hd] at upper
    calc n < 2 * f.hidden * 2 ^ f.excess n d * d := upper
      _ = 2 * f.hidden * (d * 2 ^ f.excess n d) := by ring
  · rcases Nat.eq_zero_or_pos (f.excess n d) with zero | positive
    · exact .inl zero
    · right
      have nonzero : n / d ≠ 0 := by
        intro h0
        unfold excess at positive
        rw [h0] at positive
        simp at positive
      have exponent : f.fractionBits + f.excess n d = (n / d).log2 := by
        unfold excess at positive ⊢
        omega
      have lower : f.hidden * 2 ^ f.excess n d ≤ n / d := by
        unfold hidden
        rw [← Nat.pow_add, exponent]
        exact Nat.log2_self_le nonzero
      calc f.hidden * (d * 2 ^ f.excess n d) = f.hidden * 2 ^ f.excess n d * d := by ring
        _ ≤ n := (Nat.le_div_iff_mul_le hd).mp lower

/-- The rounded word, its value, and how far that is from the quotient. -/
theorem exists_rounded (f : FloatFormat) (n : Nat) (hd : 0 < d) :
    ∃ q s, f.rounded n d = s * f.hidden + q ∧ q ≤ 2 * f.hidden ∧ (s = 0 ∨ f.hidden ≤ q) ∧
      2 * n ≤ (2 * q + 1) * (d * 2 ^ s) ∧ 2 * (q * (d * 2 ^ s)) ≤ 2 * n + d * 2 ^ s ∧
      n < 2 * f.hidden * (d * 2 ^ s) ∧ (s = 0 ∨ f.hidden * (d * 2 ^ s) ≤ n) := by
  obtain ⟨upper, lower⟩ := f.excess_bounds n hd
  have step : 0 < d * 2 ^ f.excess n d := Nat.mul_pos hd (Nat.two_pow_pos _)
  obtain ⟨above, below⟩ := roundHalfEven_bounds n step
  refine ⟨_, _, rfl, ?_, ?_, above, below, upper, lower⟩
  · refine Nat.le_of_lt_succ (Nat.lt_of_mul_lt_mul_left (a := 2) ?_)
    refine Nat.lt_of_mul_lt_mul_right (a := d * 2 ^ f.excess n d) ?_
    have spread : 2 * (2 * f.hidden).succ * (d * 2 ^ f.excess n d) =
        2 * (2 * f.hidden * (d * 2 ^ f.excess n d)) + 2 * (d * 2 ^ f.excess n d) := by
      rw [Nat.succ_eq_add_one]
      ring
    rw [spread, Nat.mul_assoc]
    omega
  · refine lower.imp_right fun low => ?_
    have twice : 2 * f.hidden ≤ 2 * roundHalfEven n (d * 2 ^ f.excess n d) + 1 := by
      refine Nat.le_of_mul_le_mul_right (Nat.le_trans ?_ above) step
      rw [Nat.mul_assoc]
      omega
    omega

/-- The midpoints around a rounded quotient. -/
theorem rounded_bounds (f : FloatFormat) (n : Nat) (hd : 0 < d) :
    2 * n ≤ f.midpoint (f.rounded n d) * d ∧
      ∀ w, w + 1 = f.rounded n d → f.midpoint w * d ≤ 2 * n := by
  obtain ⟨q, s, hword, hq, hs, above, below, upper, lower⟩ := f.exists_rounded n hd
  have value := magnitude_shift hq hs
  constructor
  · rcases Nat.lt_or_ge q (2 * f.hidden) with inside | top
    · have next := magnitude_shift (s := s) inside (hs.imp_right Nat.le_succ_of_le)
      rw [hword, midpoint_eq, value, Nat.add_assoc, next]
      calc 2 * n ≤ (2 * q + 1) * (d * 2 ^ s) := above
        _ = (q * 2 ^ s + (q + 1) * 2 ^ s) * d := by ring
    · -- The significand at the top of its range is above the quotient.
      have full : q = 2 * f.hidden := Nat.le_antisymm hq top
      calc 2 * n ≤ 2 * (2 * f.hidden * (d * 2 ^ s)) := Nat.mul_le_mul_left 2 (Nat.le_of_lt upper)
        _ = 2 * f.magnitude (f.rounded n d) * d := by rw [hword, value, full]; ring
        _ ≤ f.midpoint (f.rounded n d) * d := Nat.mul_le_mul_right _ (Nat.le_add_right _ _)
  · intro w hw
    by_cases same : s = 0 ∨ f.hidden < q
    · -- The word before has the same shift.
      have pos := f.hidden_pos
      obtain ⟨k, rfl⟩ : ∃ k, q = k + 1 := by
        rcases same with rfl | inside
        · exact ⟨q - 1, by omega⟩
        · exact ⟨q - 1, by omega⟩
      have before := magnitude_shift (Nat.le_of_succ_le hq) (same.imp_right Nat.le_of_lt_succ)
      have word : w = s * f.hidden + k := by omega
      have twice : (k + (k + 1)) * (d * 2 ^ s) + d * 2 ^ s = 2 * ((k + 1) * (d * 2 ^ s)) := by ring
      rw [midpoint_eq, hw, hword, value, word, before]
      calc (k * 2 ^ s + (k + 1) * 2 ^ s) * d = (k + (k + 1)) * (d * 2 ^ s) := by ring
        _ ≤ 2 * n := by omega
    · -- The least significand of a binade is at most the quotient.
      obtain ⟨positive, bottom⟩ := not_or.mp same
      have least : q = f.hidden := Nat.le_antisymm (Nat.not_lt.mp bottom) (hs.resolve_left positive)
      rw [midpoint_eq, hw]
      calc (f.magnitude w + f.magnitude (f.rounded n d)) * d
          ≤ (f.magnitude (f.rounded n d) + f.magnitude (f.rounded n d)) * d :=
            Nat.mul_le_mul_right _ (Nat.add_le_add_right (magnitude_le (by omega)) _)
        _ = 2 * (f.hidden * (d * 2 ^ s)) := by rw [hword, value, least]; ring
        _ ≤ 2 * n := Nat.mul_le_mul_left 2 (lower.resolve_left positive)

/-- What lies strictly between the midpoints around a word rounds to the word. -/
theorem rounded_eq_of_between (hd : 0 < d) (low : ∀ v, v + 1 = w → f.midpoint v * d < 2 * n)
    (high : 2 * n < f.midpoint w * d) : f.rounded n d = w := by
  obtain ⟨above, below⟩ := f.rounded_bounds n hd
  refine Nat.le_antisymm (Nat.not_lt.mp fun hlt => ?_) (Nat.not_lt.mp fun hlt => ?_)
  · obtain ⟨v, hv⟩ : ∃ v, v + 1 = f.rounded n d := ⟨f.rounded n d - 1, by omega⟩
    have := Nat.mul_le_mul_right d (midpoint_le (f := f) (show w ≤ v by omega))
    have := below v hv
    omega
  · obtain ⟨v, hv⟩ : ∃ v, v + 1 = w := ⟨w - 1, by omega⟩
    have := Nat.mul_le_mul_right d (midpoint_le (f := f) (show f.rounded n d ≤ v by omega))
    have := low v hv
    omega

/-- The value of a word rounds to the word. -/
theorem rounded_magnitude (f : FloatFormat) (w : Nat) (hd : 0 < d) :
    f.rounded (f.magnitude w * d) d = w := by
  refine rounded_eq_of_between hd (fun v hv => ?_) ?_
  · rw [← Nat.mul_assoc]
    refine Nat.mul_lt_mul_of_pos_right ?_ hd
    rw [midpoint_eq, hv]
    have := f.magnitude_strictMono (show v < w by omega)
    omega
  · rw [← Nat.mul_assoc]
    exact Nat.mul_lt_mul_of_pos_right (Nat.lt_add_of_pos_right (f.gap_pos w)) hd

/-! ### Rounding -/

/-- What rounds to a finite word lies between the midpoints around it. -/
theorem nearest_bounds (hd : 0 < d) (h : f.nearest n d = w) (finite : w < f.infinity) :
    2 * n ≤ f.midpoint w * d ∧ ∀ v, v + 1 = w → f.midpoint v * d ≤ 2 * n := by
  have word : f.rounded n d = w := by
    rw [nearest_eq_min] at h
    omega
  rw [← word]
  exact f.rounded_bounds n hd

theorem nearest_eq_of_between (hd : 0 < d) (finite : w ≤ f.infinity)
    (low : ∀ v, v + 1 = w → f.midpoint v * d < 2 * n) (high : 2 * n < f.midpoint w * d) :
    f.nearest n d = w := by
  rw [nearest_eq_min, rounded_eq_of_between hd low high, Nat.min_eq_right finite]

theorem nearest_magnitude (hd : 0 < d) (finite : w ≤ f.infinity) :
    f.nearest (f.magnitude w * d) d = w := by
  rw [nearest_eq_min, rounded_magnitude f w hd, Nat.min_eq_right finite]

/-- Only the quotient counts. -/
theorem nearest_mul_right (f : FloatFormat) (n d : Nat) {t : Nat} (ht : 0 < t) :
    f.nearest (n * t) (d * t) = f.nearest n d := by
  have excess : f.excess (n * t) (d * t) = f.excess n d := by
    unfold FloatFormat.excess
    rw [Nat.mul_div_mul_right _ _ ht]
  have quotient (k : Nat) : roundHalfEven (n * t) (k * t) = roundHalfEven n k := by
    have scaled (a b : Nat) : a * t < b * t ↔ a < b := Nat.mul_lt_mul_right ht
    unfold roundHalfEven
    simp only [Nat.mul_div_mul_right _ _ ht, Nat.mul_mod_mul_right, ← Nat.mul_assoc, scaled]
  unfold nearest
  simp only [excess]
  rw [Nat.mul_right_comm, quotient]

/-- A quotient well inside the range rounds to a finite word. -/
theorem rounded_lt_infinity (hd : 0 < d) (h : 2 * n < f.magnitude f.infinity * d) :
    f.rounded n d < f.infinity := by
  by_contra beyond
  have positive : 0 < f.infinity := by
    by_contra none
    rw [Nat.eq_zero_of_not_pos none, magnitude_zero, Nat.zero_mul] at h
    exact absurd h (Nat.not_lt_zero _)
  obtain ⟨v, hv⟩ : ∃ v, v + 1 = f.rounded n d := ⟨f.rounded n d - 1, by omega⟩
  have low := (f.rounded_bounds n hd).2 v hv
  have reach : f.magnitude f.infinity ≤ f.midpoint v := by
    rw [midpoint_eq, hv]
    exact Nat.le_trans (magnitude_le (Nat.not_lt.mp beyond)) (Nat.le_add_left _ _)
  have := Nat.mul_le_mul_right d reach
  omega

/-- A multiple of the gap at its place is the value of a word. -/
theorem magnitude_rounded (hd : 0 < d) (h : 2 ^ f.excess (v * d) d ∣ v) :
    f.magnitude (f.rounded (v * d) d) = v := by
  obtain ⟨upper, lower⟩ := f.excess_bounds (v * d) hd
  obtain ⟨q, hq⟩ := h
  have step : 0 < d * 2 ^ f.excess (v * d) d := Nat.mul_pos hd (Nat.two_pow_pos _)
  have multiple : v * d = q * (d * 2 ^ f.excess (v * d) d) := by
    rw [Nat.mul_comm d, ← Nat.mul_assoc, Nat.mul_comm q, ← hq]
  have significand : roundHalfEven (v * d) (d * 2 ^ f.excess (v * d) d) = q := by
    have exact_quotient := roundHalfEven_mul q step
    rwa [← multiple] at exact_quotient
  rw [rounded, significand, magnitude_shift, Nat.mul_comm, ← hq]
  · refine Nat.le_of_lt (Nat.lt_of_mul_lt_mul_right (a := d * 2 ^ f.excess (v * d) d) ?_)
    rwa [← multiple]
  · refine lower.imp_right fun low => Nat.le_of_mul_le_mul_right ?_ step
    rwa [← multiple]

/-- An integer that the significand holds, times a power of two, is the value of a word. -/
theorem magnitude_rounded_mul_pow (hd : 0 < d) (hv : v < 2 * f.hidden) (j : Nat) :
    f.magnitude (f.rounded (v * 2 ^ j * d) d) = v * 2 ^ j := by
  refine magnitude_rounded hd (Nat.dvd_trans (Nat.pow_dvd_pow 2 ?_) (Nat.dvd_mul_left _ _))
  unfold excess
  rw [Nat.mul_div_cancel _ hd]
  rcases Nat.eq_zero_or_pos v with zero | positive
  · simp [zero]
  · have top : (v * 2 ^ j).log2 < f.fractionBits + 1 + j := by
      rw [Nat.log2_lt (Nat.mul_ne_zero (by omega) (Nat.two_pow_pos j).ne'), Nat.pow_add]
      refine Nat.mul_lt_mul_of_pos_right ?_ (Nat.two_pow_pos j)
      rwa [Nat.pow_succ, Nat.mul_comm]
    omega

end FloatFormat

end DenseMedium
