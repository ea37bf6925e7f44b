import DenseMedium.Coefficient.Decimal
import DenseMedium.Proofs.Coefficient.Rounding

/-!
Where the shortest decimal of a word lies.

`Decimal.shortest_cases`: the shortest decimal of a positive finite word reads back to the word, and
either it lies close to the value, at most a quarter of the smaller gap away, or its grid is coarse,
with a step of at least half that gap. The coarser the grid, the fewer the digits
(`Decimal.digits_lt`).
-/

namespace DenseMedium

namespace FloatFormat

variable {f : FloatFormat} {v w : Nat}

theorem quanta_pos (f : FloatFormat) : 0 < f.quanta := Nat.pow_pos (by decide)

theorem gap_le (h : v ≤ w) : f.gap v ≤ f.gap w :=
  Nat.pow_le_pow_right (by decide) (Nat.sub_le_sub_right (Nat.div_le_div_right h) 1)

/-- From one word to the next the gap doubles at most. -/
theorem gap_succ_le (f : FloatFormat) (v : Nat) : f.gap (v + 1) ≤ 2 * f.gap v := by
  have quotient : (v + 1) / f.hidden ≤ v / f.hidden + 1 := by
    rw [← Nat.add_div_right v f.hidden_pos]
    exact Nat.div_le_div_right (Nat.add_le_add_left f.hidden_pos v)
  unfold gap
  rw [← Nat.pow_succ']
  exact Nat.pow_le_pow_right (by decide) (by omega)

/-- Twice the midpoint below a word. -/
theorem midpoint_add_gap (f : FloatFormat) (v : Nat) :
    f.midpoint v + f.gap v = 2 * f.magnitude (v + 1) := by
  rw [midpoint, magnitude_succ]
  omega

/-- The midpoint above a word is less than `4 * hidden` gaps away from zero. -/
theorem midpoint_lt (f : FloatFormat) (w : Nat) : f.midpoint w < 4 * f.hidden * f.gap w := by
  obtain ⟨q, hw, hq, hs⟩ := f.exists_shift w
  have value := magnitude_shift (Nat.le_of_lt hq) hs
  rw [← hw] at value
  rw [midpoint, value, ← gap]
  have top := Nat.mul_le_mul_right (f.gap w) (show 2 * q + 2 ≤ 4 * f.hidden by omega)
  have pos := f.gap_pos w
  rw [Nat.add_mul, Nat.mul_assoc] at top
  omega

end FloatFormat

namespace Decimal

open FloatFormat

variable {f : FloatFormat} {v w n d k step : Nat}

theorem lt_leadingPower (n : Nat) : n < 10 ^ (leadingPower n + 1) := by
  fun_induction leadingPower n with
  | case1 n small => exact small
  | case2 n _ ih =>
    rw [Nat.pow_succ]
    exact (Nat.div_lt_iff_lt_mul (by decide)).mp ih

/-- What the search ends with: the value itself on the finest grid or a neighbour, and no neighbour on
a coarser grid. -/
theorem coarsest_cases : ∀ {K : Nat}, coarsest f w n K = (d, k) →
    ((k = 0 ∧ d = n) ∨ (0 < k ∧ neighbour? f w n (10 ^ k) = some d)) ∧ k ≤ K ∧
      (k < K → neighbour? f w n (10 ^ (k + 1)) = none)
  | 0, h => by
      cases h
      exact ⟨.inl ⟨rfl, rfl⟩, Nat.le_refl 0, fun h => absurd h (Nat.lt_irrefl 0)⟩
  | K + 1, h => by
      unfold coarsest at h
      split at h
      · rename_i found
        cases h
        exact ⟨.inr ⟨Nat.succ_pos K, found⟩, Nat.le_refl _, fun h => absurd h (Nat.lt_irrefl _)⟩
      · rename_i none
        obtain ⟨found, le, coarser⟩ := coarsest_cases h
        refine ⟨found, Nat.le_succ_of_le le, fun _ => ?_⟩
        rcases Nat.lt_or_eq_of_le le with lt | rfl
        · exact coarser lt
        · exact none

theorem readsBack_iff {c : Nat} : f.readsBack w c = true ↔ f.nearest c f.quanta = w := by
  unfold readsBack
  exact decide_eq_true_iff

/-- The nearer of two neighbours that both read back, or the only one that does. -/
theorem neighbour?_eq_some (h : neighbour? f w n step = some d) :
    (f.readsBack w (n / step * step) = true ∧ f.readsBack w ((n / step + 1) * step) = true ∧
        d = roundHalfEven n step) ∨
      (f.readsBack w (n / step * step) = true ∧ f.readsBack w ((n / step + 1) * step) = false ∧
        d = n / step) ∨
      (f.readsBack w (n / step * step) = false ∧ f.readsBack w ((n / step + 1) * step) = true ∧
        d = n / step + 1) := by
  unfold neighbour? at h
  cases hl : f.readsBack w (n / step * step) <;>
    cases hh : f.readsBack w ((n / step + 1) * step) <;> simp_all

/-- Only zero reads back to the word zero. -/
theorem pos_of_reads (hw : 0 < w) (h : f.nearest (d * step) f.quanta = w) : 0 < d := by
  refine Nat.pos_of_ne_zero fun zero => ?_
  have none := nearest_magnitude (f := f) (w := 0) f.quanta_pos (Nat.zero_le _)
  rw [f.magnitude_zero, Nat.zero_mul] at none
  rw [zero, Nat.zero_mul, none] at h
  omega

section Position

variable (hw : v + 1 = w) (finite : w < f.infinity)

/-- Whether a number of quanta is at most a quarter of the gap below a word away from its value. -/
def Settled (f : FloatFormat) (v w c : Nat) : Prop :=
  4 * c ≤ 4 * (f.magnitude w * f.quanta) + f.gap v * f.quanta ∧
    4 * (f.magnitude w * f.quanta) ≤ 4 * c + f.gap v * f.quanta

include hw finite

/-- What lies less than half a gap from the value of a word reads back to it. -/
theorem reads_of_close {c : Nat}
    (low : 2 * (f.magnitude w * f.quanta) < 2 * c + f.gap v * f.quanta)
    (high : 2 * c < 2 * (f.magnitude w * f.quanta) + f.gap v * f.quanta) :
    f.readsBack w c = true := by
  refine readsBack_iff.mpr (nearest_eq_of_between f.quanta_pos (Nat.le_of_lt finite) ?_ ?_)
  · intro u hu
    have below := congrArg (· * f.quanta) (f.midpoint_add_gap v)
    simp only [hw, Nat.add_mul, Nat.mul_assoc] at below
    rw [show u = v by omega]
    omega
  · have gaps := Nat.mul_le_mul_right f.quanta (gap_le (f := f) (show v ≤ w by omega))
    rw [FloatFormat.midpoint, Nat.add_mul, Nat.mul_assoc]
    omega

/-- A neighbour that reads back is settled, or its step is at least half the gap. -/
theorem settled_or_coarse (hstep : 0 < step)
    (h : neighbour? f w (f.magnitude w * f.quanta) step = some d) :
    f.nearest (d * step) f.quanta = w ∧
      (Settled f v w (d * step) ∨ f.gap v * f.quanta ≤ 2 * step) := by
  have below := Nat.div_mul_le_self (f.magnitude w * f.quanta) step
  have above := Nat.lt_div_mul_add hstep (a := f.magnitude w * f.quanta)
  rcases neighbour?_eq_some h with ⟨low, high, rfl⟩ | ⟨low, high, rfl⟩ | ⟨low, high, rfl⟩
  · constructor
    · rcases roundHalfEven_cases (f.magnitude w * f.quanta) step with choice | choice
      · rw [choice]
        exact readsBack_iff.mp low
      · rw [choice]
        exact readsBack_iff.mp high
    · obtain ⟨near_above, near_below⟩ := roundHalfEven_bounds (f.magnitude w * f.quanta) hstep
      rw [Nat.add_mul, Nat.one_mul, Nat.mul_assoc] at near_above
      unfold Settled
      by_cases coarse : f.gap v * f.quanta ≤ 2 * step
      · exact .inr coarse
      · exact .inl ⟨by omega, by omega⟩
  · refine ⟨readsBack_iff.mp low, .inr (Nat.not_lt.mp fun fine => ?_)⟩
    rw [reads_of_close hw finite (by rw [Nat.add_mul]; omega) (by rw [Nat.add_mul]; omega)] at high
    contradiction
  · refine ⟨readsBack_iff.mp high, .inr (Nat.not_lt.mp fun fine => ?_)⟩
    rw [reads_of_close hw finite (by omega) (by omega)] at low
    contradiction

/-- A grid whose step is less than half the gap has a neighbour. -/
theorem exists_neighbour (hstep : 0 < step) (fine : 2 * step < f.gap v * f.quanta) :
    neighbour? f w (f.magnitude w * f.quanta) step ≠ none := by
  have below := Nat.div_mul_le_self (f.magnitude w * f.quanta) step
  have above := Nat.lt_div_mul_add hstep (a := f.magnitude w * f.quanta)
  have low := reads_of_close hw finite
    (c := f.magnitude w * f.quanta / step * step) (by omega) (by omega)
  have high := reads_of_close hw finite
    (c := (f.magnitude w * f.quanta / step + 1) * step)
    (by rw [Nat.add_mul]; omega) (by rw [Nat.add_mul]; omega)
  unfold neighbour?
  simp only [low, high, Bool.and_self, if_true]
  exact Option.some_ne_none _

/-- The shortest decimal of a positive finite word. Its grid is at most ten times finer than the
finest one without a neighbour might be. -/
theorem shortest_cases : ∃ d k : Nat, shortest f w = ⟨d, k - f.unitExponent⟩ ∧ 0 < d ∧
    f.nearest (d * 10 ^ k) f.quanta = w ∧ f.gap v * f.quanta ≤ 20 * 10 ^ k ∧
    (Settled f v w (d * 10 ^ k) ∨ (f.gap v * f.quanta ≤ 2 * 10 ^ k ∧
      neighbour? f w (f.magnitude w * f.quanta) (10 ^ k) = some d)) := by
  have gap_le_value : f.gap v * f.quanta ≤ f.magnitude w * f.quanta := by
    refine Nat.mul_le_mul_right _ ?_
    rw [← hw, magnitude_succ]
    exact Nat.le_add_left _ _
  have positive : 0 < f.magnitude w * f.quanta :=
    Nat.lt_of_lt_of_le (Nat.mul_pos (f.gap_pos v) f.quanta_pos) gap_le_value
  obtain ⟨⟨d, k⟩, found⟩ : ∃ p, coarsest f w (f.magnitude w * f.quanta)
      (leadingPower (f.magnitude w * f.quanta) + 1) = p := ⟨_, rfl⟩
  have result : shortest f w = ⟨d, k - f.unitExponent⟩ := by
    unfold shortest
    simp only [if_neg (Nat.pos_iff_ne_zero.mp positive), found]
  obtain ⟨place, le, coarser⟩ := coarsest_cases found
  have grid : f.gap v * f.quanta ≤ 20 * 10 ^ k := by
    rcases Nat.lt_or_eq_of_le le with lt | top
    · -- The next grid has no neighbour, so its step is at least half the gap.
      have next := mt (exists_neighbour hw finite (Nat.pow_pos (by decide)))
        (not_not_intro (coarser lt))
      rw [Nat.pow_succ] at next
      omega
    · have := lt_leadingPower (f.magnitude w * f.quanta)
      rw [← top] at this
      omega
  rcases place with ⟨rfl, rfl⟩ | ⟨hk, found⟩
  · have exact_value : f.nearest (f.magnitude w * f.quanta * 10 ^ 0) f.quanta = w := by
      rw [Nat.pow_zero, Nat.mul_one]
      exact nearest_magnitude f.quanta_pos (Nat.le_of_lt finite)
    refine ⟨_, 0, result, positive, exact_value, grid, .inl ?_⟩
    unfold Settled
    rw [Nat.pow_zero, Nat.mul_one]
    exact ⟨by omega, by omega⟩
  · obtain ⟨reads, place⟩ := settled_or_coarse hw finite (Nat.pow_pos (by decide)) found
    exact ⟨d, k, result, pos_of_reads (by omega) reads, reads, grid,
      place.imp_right fun coarse => ⟨coarse, found⟩⟩

/-- A decimal that reads back has few digits when its grid is coarse. -/
theorem digits_lt {t : Nat} (reads : f.nearest (d * step) f.quanta = w)
    (coarse : f.gap v * f.quanta ≤ t * step) : d < 4 * f.hidden * t := by
  obtain ⟨above, -⟩ := nearest_bounds f.quanta_pos reads finite
  have top := Nat.mul_lt_mul_of_pos_right (f.midpoint_lt w) f.quanta_pos
  have gaps : f.gap w ≤ 2 * f.gap v := hw ▸ f.gap_succ_le v
  have bound : 2 * (d * step) < 2 * (4 * f.hidden * t * step) :=
    calc 2 * (d * step) ≤ f.midpoint w * f.quanta := above
      _ < 4 * f.hidden * f.gap w * f.quanta := top
      _ ≤ 4 * f.hidden * (2 * f.gap v) * f.quanta :=
        Nat.mul_le_mul_right _ (Nat.mul_le_mul_left _ gaps)
      _ = 8 * f.hidden * (f.gap v * f.quanta) := by ring
      _ ≤ 8 * f.hidden * (t * step) := Nat.mul_le_mul_left _ coarse
      _ = 2 * (4 * f.hidden * t * step) := by ring
  exact Nat.lt_of_mul_lt_mul_right (Nat.lt_of_mul_lt_mul_left bound)

end Position

end Decimal

end DenseMedium
