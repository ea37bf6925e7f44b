import DenseMedium.Proofs.Lattice.Regions
import Mathlib.Tactic.NormNum

/-!
Extents listed, tested and counted.

`points` runs three nested loops, `contains` compares with the least upper bound, and `pointCount`
multiplies the lengths. None of them is defined through another. They speak of the same points, also
where a length is zero or negative and where an end lies at the limit of the coordinates.

* `box_eq_loops`: the list is that of the three loops alone. The test for a box that is empty on some
  axis only saves them their rounds.
* `Nonnegative.volume_toInt`: the number of points as the product of the lengths.
* `points_exact`: what is listed is what is contained, each point once and in canonical order, and
  the count is its length.
-/

namespace DenseMedium

namespace Extent

/-- A box is its three loops. -/
theorem box_eq_loops (lo hi : Point) : box lo hi =
    (interval lo.z hi.z).flatMap fun z => (interval lo.y hi.y).flatMap fun y =>
      (interval lo.x hi.x).map fun x => ⟨x, y, z⟩ := by
  unfold box
  by_cases below : lo < hi
  · rw [if_pos below]
  · rw [if_neg below]
    by_cases x : lo.x < hi.x
    · by_cases y : lo.y < hi.y
      · have z : ¬ lo.z < hi.z := fun z => below ⟨x, y, z⟩
        simp [interval_eq_nil z]
      · simp [interval_eq_nil y]
    · simp [interval_eq_nil x]

section Count

variable {e : Extent}

/-- The number of points is the product of the lengths. -/
theorem Nonnegative.volume_toInt (h : e.Nonnegative) :
    (e.volume : Int) = e.shape.x.toInt * e.shape.y.toInt * e.shape.z.toInt := by
  obtain ⟨hx, hy, hz⟩ := h
  rw [volume_eq, Int.natCast_mul, Int.natCast_mul]
  unfold width height depth
  rw [Int.toNat_of_nonneg hx, Int.toNat_of_nonneg hy, Int.toNat_of_nonneg hz]

/-- The number of points is a size when the product of the lengths is. -/
theorem Nonnegative.volume_lt (h : e.Nonnegative)
    (few : e.shape.x.toInt * e.shape.y.toInt * e.shape.z.toInt < 2 ^ 64) :
    e.volume < Size.bound := by
  rw [← h.volume_toInt] at few
  unfold Size.bound
  norm_num at few
  omega

theorem Nonnegative.isEmpty_eq_ok (h : e.Nonnegative) (few : e.volume < Size.bound) :
    e.isEmpty = .ok (e.volume == 0) := by
  have count : e.pointCount = .ok e.volume := (pointCount_eq_ok h).mpr ⟨few, rfl⟩
  unfold isEmpty
  rw [count, ok_bind, pure_eq_ok]

/-- An extent has no point to count when it contains none. -/
theorem volume_eq_zero_iff {b : Point} (hb : e.leastUpperBound = .ok b) :
    e.volume = 0 ↔ ∀ p, e.contains p = .ok false := by
  rw [← length_enumerate, List.length_eq_zero_iff, List.eq_nil_iff_forall_not_mem]
  constructor
  · intro none p
    rw [contains_eq_ok hb, decide_eq_false fun hp => none p ((mem_enumerate hb).mpr hp)]
  · intro none p hp
    have listed := (contains_eq_true hb).mpr ((mem_enumerate hb).mp hp)
    rw [none p] at listed
    cases listed

end Count

/-- **Points are listed, tested and counted alike.** When the least upper bound of an extent fits,
whatever its lengths, three nested loops between its ends list its points: the points for which
`contains` answers yes, each once, in canonical order. When no length is negative and the product of
the lengths is a size, both counts give the length of the list, and `isEmpty` answers yes exactly
when no point is contained. -/
theorem points_exact {e : Extent} {b : Point} (bounded : e.leastUpperBound = .ok b) :
    ∃ ps, e.points = .ok ps ∧
      (ps = (interval e.minimum.z b.z).flatMap fun z => (interval e.minimum.y b.y).flatMap fun y =>
        (interval e.minimum.x b.x).map fun x => ⟨x, y, z⟩) ∧
      (∀ p, e.contains p = .ok (decide (p ∈ ps))) ∧
      ps.Nodup ∧ ps.Pairwise Point.Before ∧
      ((0 ≤ e.shape.x.toInt ∧ 0 ≤ e.shape.y.toInt ∧ 0 ≤ e.shape.z.toInt) →
        e.shape.x.toInt * e.shape.y.toInt * e.shape.z.toInt < 2 ^ 64 →
        e.pointCount = .ok ps.length ∧ e.pointCount? = some ps.length ∧
          ∃ answer, e.isEmpty = .ok answer ∧
            (answer = true ↔ ∀ p, e.contains p = .ok false)) := by
  have listed : e.points = .ok e.enumerate := points_eq_ok bounded
  refine ⟨e.enumerate, listed, ?_, ?_, enumerate_nodup bounded, enumerate_sorted bounded, ?_⟩
  · rw [← box_eq_loops]
    unfold points at listed
    rw [bounded, ok_bind, pure_eq_ok] at listed
    exact (Except.ok.inj listed).symm
  · intro p
    rw [contains_eq_ok bounded, Except.ok.injEq, decide_eq_decide, mem_enumerate bounded]
  · intro nonnegative product
    have nonnegative : e.Nonnegative := nonnegative
    have few := nonnegative.volume_lt product
    rw [length_enumerate]
    refine ⟨(pointCount_eq_ok nonnegative).mpr ⟨few, rfl⟩,
      (pointCount?_eq_some nonnegative).mpr ⟨few, rfl⟩, _,
      nonnegative.isEmpty_eq_ok few, ?_⟩
    rw [beq_iff_eq, volume_eq_zero_iff bounded]

/-- Four points at both limits of the coordinates, and wide extents without a point: one has a
negative depth, the other none. -/
theorem points_exact_at_limits :
    let corner : Extent := ⟨⟨2147483645, -1, -2147483648⟩, ⟨2, 2, 1⟩⟩
    let inverted : Extent := ⟨⟨-2147483648, 0, 5⟩, ⟨2147483647, 2147483647, -2147483647⟩⟩
    let flat : Extent := ⟨⟨-2147483648, 0, 5⟩, ⟨2147483647, 2147483647, 0⟩⟩
    (corner.leastUpperBound = .ok ⟨2147483647, 1, -2147483647⟩ ∧
        inverted.leastUpperBound = .ok ⟨-1, 2147483647, -2147483642⟩ ∧
        flat.leastUpperBound = .ok ⟨-1, 2147483647, 5⟩) ∧
      (corner.points = .ok [⟨2147483645, -1, -2147483648⟩, ⟨2147483646, -1, -2147483648⟩,
          ⟨2147483645, 0, -2147483648⟩, ⟨2147483646, 0, -2147483648⟩] ∧
        corner.contains ⟨2147483646, 0, -2147483648⟩ = .ok true ∧
        corner.contains ⟨2147483647, 0, -2147483648⟩ = .ok false ∧ corner.pointCount = .ok 4) ∧
      (inverted.points = .ok [] ∧ ∀ p, inverted.contains p = .ok false) ∧
      flat.points = .ok [] ∧ flat.pointCount? = some 0 ∧ flat.isEmpty = .ok true := by
  intro corner inverted flat
  have cornerBound : corner.leastUpperBound = .ok ⟨2147483647, 1, -2147483647⟩ := by decide
  have invertedBound : inverted.leastUpperBound = .ok ⟨-1, 2147483647, -2147483642⟩ := by decide
  have flatBound : flat.leastUpperBound = .ok ⟨-1, 2147483647, 5⟩ := by decide
  refine ⟨⟨cornerBound, invertedBound, flatBound⟩, ?_, ?_, ?_⟩
  · obtain ⟨ps, listed, loops, tested, -, -, counted⟩ := points_exact cornerBound
    cases loops
    exact ⟨listed, tested _, tested _, (counted (by decide) (by decide)).1⟩
  · obtain ⟨ps, listed, loops, tested, -⟩ := points_exact invertedBound
    cases loops
    exact ⟨listed, tested⟩
  · obtain ⟨ps, listed, loops, tested, -, -, counted⟩ := points_exact flatBound
    cases loops
    obtain ⟨-, count, answer, empty, iff⟩ := counted (by decide) (by decide)
    have yes : answer = true := iff.mpr tested
    exact ⟨listed, count, yes ▸ empty⟩

end Extent

end DenseMedium
