import DenseMedium.Proofs.Lattice.Walks

/-!
Intersections of extents.

The lengths of an intersection are the distances from the greater of two least coordinates to the
lesser of two bounds. A distance is computed as a coordinate and only then raised to zero, so it may
not fit between extents that are far apart.

* `exists_intersection_iff`, `intersection_of_not_near`: the extents that are `Near` each other have
  an intersection, and the others fault. Extents that share a point are near.
* `mem_intersection`: the intersection holds the points of both.
* `nonnegative_intersection`, `intersection_comm`: it has no negative length, and it does not depend
  on the order of the two.
-/

namespace DenseMedium

/-! ### Differences -/

namespace Point

/-- Points have a difference when it fits on each axis, and otherwise the fault is one and the
same. -/
theorem sub_cases (p q : Point) :
    (Coordinate.Fits (p.x.toInt - q.x.toInt) ∧ Coordinate.Fits (p.y.toInt - q.y.toInt) ∧
        Coordinate.Fits (p.z.toInt - q.z.toInt)) ∧ (∃ r, p.sub q = .ok r) ∨
      ¬ (Coordinate.Fits (p.x.toInt - q.x.toInt) ∧ Coordinate.Fits (p.y.toInt - q.y.toInt) ∧
        Coordinate.Fits (p.z.toInt - q.z.toInt)) ∧ p.sub q = .error .subOverflow := by
  have step (a b : Coordinate) := Coordinate.ofInt_cases .subOverflow (a.toInt - b.toInt)
  rcases zipWith_cases (p := p) (q := q) step with ⟨r, h⟩ | h
  · obtain ⟨hx, hy, hz⟩ := sub_eq_ok.mp h
    exact .inl ⟨⟨hx ▸ Coordinate.fits_toInt _, hy ▸ Coordinate.fits_toInt _,
      hz ▸ Coordinate.fits_toInt _⟩, r, h⟩
  · refine .inr ⟨fun ⟨fx, fy, fz⟩ => ?_, h⟩
    have found : p.sub q = .ok ⟨_, _, _⟩ := sub_eq_ok.mpr
      ⟨Coordinate.toInt_ofInt fx, Coordinate.toInt_ofInt fy, Coordinate.toInt_ofInt fz⟩
    cases h.symm.trans found

theorem join_comm (p q : Point) : p.join q = q.join p := by
  refine Point.ext ?_ ?_ ?_ <;>
  · apply Coordinate.eq_of_toInt
    simp only [join, Coordinate.toInt_max, max_comm]

theorem meet_comm (p q : Point) : p.meet q = q.meet p := by
  refine Point.ext ?_ ?_ ?_ <;>
  · apply Coordinate.eq_of_toInt
    simp only [meet, Coordinate.toInt_min, min_comm]

end Point

/-! ### Extents that have an intersection -/

/-- How far the second of two ranges begins behind the end of the first, in either order. Ranges
that share an integer have a negative gap. -/
def gap (least length least' length' : Int) : Int :=
  max least least' - min (least + length) (least' + length')

namespace Extent

variable {a b c : Extent} {topA topB p : Point}

/-- Whether no gap between two extents is greater than the distance of the least coordinate from
zero. -/
def Near (a b : Extent) : Prop :=
  gap a.minimum.x.toInt a.shape.x.toInt b.minimum.x.toInt b.shape.x.toInt ≤ 2147483648 ∧
    gap a.minimum.y.toInt a.shape.y.toInt b.minimum.y.toInt b.shape.y.toInt ≤ 2147483648 ∧
    gap a.minimum.z.toInt a.shape.z.toInt b.minimum.z.toInt b.shape.z.toInt ≤ 2147483648

instance (a b : Extent) : Decidable (a.Near b) := inferInstanceAs (Decidable (_ ∧ _ ∧ _))

/-- Extents that share a point are near. -/
theorem near_of_mem (hpa : p ∈ a) (hpb : p ∈ b) : a.Near b := by
  obtain ⟨⟨_, _⟩, ⟨_, _⟩, ⟨_, _⟩⟩ := hpa
  obtain ⟨⟨_, _⟩, ⟨_, _⟩, ⟨_, _⟩⟩ := hpb
  unfold Near gap
  exact ⟨by omega, by omega, by omega⟩

/-- An intersection is the difference of two points, with its lengths raised to zero. -/
theorem intersection_eq (ha : a.leastUpperBound = .ok topA) (hb : b.leastUpperBound = .ok topB) :
    a.intersection b = ((topA.meet topB).sub (a.minimum.join b.minimum) >>= fun lengths =>
      .ok ⟨a.minimum.join b.minimum, lengths.join Point.zero⟩) := by
  unfold intersection
  rw [ha, ok_bind, hb, ok_bind]
  rfl

theorem near_iff_fits (ha : a.leastUpperBound = .ok topA) (hb : b.leastUpperBound = .ok topB) :
    a.Near b ↔
      Coordinate.Fits ((topA.meet topB).x.toInt - (a.minimum.join b.minimum).x.toInt) ∧
      Coordinate.Fits ((topA.meet topB).y.toInt - (a.minimum.join b.minimum).y.toInt) ∧
      Coordinate.Fits ((topA.meet topB).z.toInt - (a.minimum.join b.minimum).z.toInt) := by
  obtain ⟨ax, ay, az⟩ := leastUpperBound_eq_ok.mp ha
  obtain ⟨bx, by', bz⟩ := leastUpperBound_eq_ok.mp hb
  -- A difference is at most the length of `a`, so it can only be too small.
  have axis {least length top least' length' top' : Coordinate}
      (htop : top.toInt = least.toInt + length.toInt)
      (htop' : top'.toInt = least'.toInt + length'.toInt) :
      gap least.toInt length.toInt least'.toInt length'.toInt ≤ 2147483648 ↔
        Coordinate.Fits ((min top top').toInt - (max least least').toInt) := by
    have high := (Coordinate.fits_toInt length).2
    unfold gap Coordinate.Fits
    rw [Coordinate.toInt_min, Coordinate.toInt_max, htop, htop']
    omega
  exact and_congr (axis ax bx) (and_congr (axis ay by') (axis az bz))

theorem exists_intersection_iff (ha : a.leastUpperBound = .ok topA)
    (hb : b.leastUpperBound = .ok topB) : (∃ c, a.intersection b = .ok c) ↔ a.Near b := by
  rw [intersection_eq ha hb, near_iff_fits ha hb]
  rcases Point.sub_cases (topA.meet topB) (a.minimum.join b.minimum) with
    ⟨fits, lengths, h⟩ | ⟨far, h⟩
  · simp [h, fits]
  · simp [h, far]

theorem intersection_of_not_near (ha : a.leastUpperBound = .ok topA)
    (hb : b.leastUpperBound = .ok topB) (far : ¬ a.Near b) :
    a.intersection b = .error .subOverflow := by
  rw [near_iff_fits ha hb] at far
  rcases Point.sub_cases (topA.meet topB) (a.minimum.join b.minimum) with ⟨fits, -⟩ | ⟨-, h⟩
  · exact absurd fits far
  · rw [intersection_eq ha hb, h, error_bind]

theorem intersection_comm (ha : a.leastUpperBound = .ok topA) (hb : b.leastUpperBound = .ok topB) :
    a.intersection b = b.intersection a := by
  rw [intersection_eq ha hb, intersection_eq hb ha, Point.meet_comm, Point.join_comm]

/-- Extents that share a point have an intersection. -/
theorem exists_intersection (ha : a.leastUpperBound = .ok topA) (hb : b.leastUpperBound = .ok topB)
    (hpa : p ∈ a) (hpb : p ∈ b) : ∃ c, a.intersection b = .ok c :=
  (exists_intersection_iff ha hb).mpr (near_of_mem hpa hpb)

/-! ### What an intersection holds -/

/-- How one axis of an intersection starts, and how long it is. -/
def Overlap (least length least' length' start extent : Int) : Prop :=
  start = max least least' ∧ extent = max (min (least + length) (least' + length') - start) 0

theorem Overlap.within {least length least' length' start extent v : Int}
    (h : Overlap least length least' length' start extent) :
    Within start extent v ↔ Within least length v ∧ Within least' length' v := by
  unfold Within
  obtain ⟨rfl, rfl⟩ := h
  omega

theorem overlap_of_intersection (ha : a.leastUpperBound = .ok topA)
    (hb : b.leastUpperBound = .ok topB) (h : a.intersection b = .ok c) :
    Overlap a.minimum.x.toInt a.shape.x.toInt b.minimum.x.toInt b.shape.x.toInt
        c.minimum.x.toInt c.shape.x.toInt ∧
      Overlap a.minimum.y.toInt a.shape.y.toInt b.minimum.y.toInt b.shape.y.toInt
        c.minimum.y.toInt c.shape.y.toInt ∧
      Overlap a.minimum.z.toInt a.shape.z.toInt b.minimum.z.toInt b.shape.z.toInt
        c.minimum.z.toInt c.shape.z.toInt := by
  obtain ⟨ax, ay, az⟩ := leastUpperBound_eq_ok.mp ha
  obtain ⟨bx, by', bz⟩ := leastUpperBound_eq_ok.mp hb
  rw [intersection_eq ha hb] at h
  obtain ⟨lengths, hlengths, h⟩ := bind_eq_ok.mp h
  obtain ⟨lx, ly, lz⟩ := Point.sub_eq_ok.mp hlengths
  have axis {least length top least' length' top' n : Coordinate}
      (htop : top.toInt = least.toInt + length.toInt)
      (htop' : top'.toInt = least'.toInt + length'.toInt)
      (hn : n.toInt = (min top top').toInt - (max least least').toInt) :
      Overlap least.toInt length.toInt least'.toInt length'.toInt (max least least').toInt
        (max n 0).toInt := by
    unfold Overlap
    rw [Coordinate.toInt_max n, hn, Coordinate.toInt_min, Coordinate.toInt_max,
      Coordinate.toInt_zero, htop, htop']
    exact ⟨rfl, rfl⟩
  cases h
  exact ⟨axis ax bx lx, axis ay by' ly, axis az bz lz⟩

/-- The intersection holds the points of both extents. -/
theorem mem_intersection (ha : a.leastUpperBound = .ok topA) (hb : b.leastUpperBound = .ok topB)
    (h : a.intersection b = .ok c) : p ∈ c ↔ p ∈ a ∧ p ∈ b := by
  obtain ⟨x, y, z⟩ := overlap_of_intersection ha hb h
  rw [mem_def, mem_def, mem_def, x.within, y.within, z.within]
  tauto

theorem leastUpperBound_intersection (ha : a.leastUpperBound = .ok topA)
    (hb : b.leastUpperBound = .ok topB) (h : a.intersection b = .ok c) :
    ∃ top, c.leastUpperBound = .ok top := by
  obtain ⟨ax, ay, az⟩ := leastUpperBound_eq_ok.mp ha
  obtain ⟨x, y, z⟩ := overlap_of_intersection ha hb h
  have fits {least length top least' length' start extent : Coordinate}
      (htop : top.toInt = least.toInt + length.toInt)
      (h : Overlap least.toInt length.toInt least'.toInt length'.toInt start.toInt extent.toInt) :
      (Int32.ofInt (start.toInt + extent.toInt)).toInt = start.toInt + extent.toInt := by
    obtain ⟨hstart, hextent⟩ := h
    have := Coordinate.fits_toInt top
    have := Coordinate.fits_toInt start
    unfold Coordinate.Fits at *
    exact Coordinate.toInt_ofInt ⟨by omega, by omega⟩
  exact ⟨⟨_, _, _⟩, leastUpperBound_eq_ok.mpr ⟨fits ax x, fits ay y, fits az z⟩⟩

/-- An intersection with a point lies inside both extents. -/
theorem inside_intersection (ha : a.leastUpperBound = .ok topA) (hb : b.leastUpperBound = .ok topB)
    (h : a.intersection b = .ok c) (positive : c.Positive) : c.Inside b := by
  obtain ⟨⟨_, _⟩, ⟨_, _⟩, ⟨_, _⟩⟩ := overlap_of_intersection ha hb h
  obtain ⟨_, _, _⟩ := positive
  exact ⟨⟨by omega, by omega, by omega⟩, ⟨by omega, by omega⟩, ⟨by omega, by omega⟩,
    ⟨by omega, by omega⟩⟩

theorem nonnegative_intersection (ha : a.leastUpperBound = .ok topA)
    (hb : b.leastUpperBound = .ok topB) (h : a.intersection b = .ok c) : c.Nonnegative := by
  obtain ⟨⟨-, x⟩, ⟨-, y⟩, ⟨-, z⟩⟩ := overlap_of_intersection ha hb h
  exact ⟨by omega, by omega, by omega⟩

/-- What `contains` answers for an intersection. -/
theorem contains_intersection (ha : a.leastUpperBound = .ok topA)
    (hb : b.leastUpperBound = .ok topB) (h : a.intersection b = .ok c) (p : Point) :
    c.contains p = .ok true ↔ a.contains p = .ok true ∧ b.contains p = .ok true := by
  obtain ⟨top, hc⟩ := leastUpperBound_intersection ha hb h
  rw [contains_eq_true hc, contains_eq_true ha, contains_eq_true hb, mem_intersection ha hb h]

end Extent

end DenseMedium
